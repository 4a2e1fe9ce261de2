/-
One name in several styles.

A name of several words can be written with a capital for every word or for every word but the first,
or with underscores or hyphens between the words. All of these are the same in words, with single
spaces between them, and blanks inside a name make no difference.

* `Text.isUpper_iff`, `Text.isLower_iff`, `Text.isDigit_iff`: the classes of ASCII by their code
  points.
* `Text.lower_eq_map_toLower`: the lower-case form of a text of ASCII, character by character.
* `PathParameter.IsPlainWord`, `PathParameter.NameStyle.spell`: words, and the name of words in a
  style.
* `PathParameter.Spaced`: a text with blanks inserted anywhere.
* `PathParameter.Writes`: a word as it stands in a name, perhaps with a capital.
* `PathParameter.hyphenate_capitals`: **every capital is split off exactly once**, and one in front is
  not.
* `PathParameter.humanize_spell`: **all styles are the same in words**.
-/
import Mathlib.Data.List.Forall2
import RouteAtlas.PathParameter

namespace RouteAtlas

/-! ### Characters and texts -/

namespace Text

variable {c : Char} {cs : List Char}

/-- The capitals of ASCII are 26 code points in a row. -/
lemma isUpper_iff : c.isUpper = true ↔ 65 ≤ c.toNat ∧ c.toNat < 65 + 26 := by
  unfold Char.isUpper
  simp only [decide_eq_true_eq, ge_iff_le, UInt32.le_iff_toNat_le, UInt32.reduceToNat,
    Char.reduceVal, Char.toNat_val]
  omega

/-- So are its small letters. -/
lemma isLower_iff : c.isLower = true ↔ 97 ≤ c.toNat ∧ c.toNat < 97 + 26 := by
  unfold Char.isLower
  simp only [Bool.and_eq_true, decide_eq_true_eq, ge_iff_le, UInt32.le_iff_toNat_le,
    UInt32.reduceToNat, Char.reduceVal, Char.toNat_val]
  omega

/-- The digits of ASCII are ten code points in a row. -/
lemma isDigit_iff : c.isDigit = true ↔ 48 ≤ c.toNat ∧ c.toNat < 48 + 10 := by
  unfold Char.isDigit
  simp only [Bool.and_eq_true, decide_eq_true_eq, ge_iff_le, UInt32.le_iff_toNat_le,
    UInt32.reduceToNat, Char.reduceVal, Char.toNat_val]
  omega

/-- Letters and digits are capitals, small letters and digits. -/
lemma isAlphanum_iff :
    c.isAlphanum = true ↔ c.isUpper = true ∨ c.isLower = true ∨ c.isDigit = true := by
  unfold Char.isAlphanum Char.isAlpha
  rw [Bool.or_eq_true, Bool.or_eq_true, or_assoc]

/-- The code points of the letters and digits of ASCII. -/
lemma toNat_of_isAlphanum (h : c.isAlphanum = true) :
    (65 ≤ c.toNat ∧ c.toNat ≤ 90 ∨ 97 ≤ c.toNat ∧ c.toNat ≤ 122) ∨
      48 ≤ c.toNat ∧ c.toNat ≤ 57 := by
  rw [isAlphanum_iff, isUpper_iff, isLower_iff, isDigit_iff] at h
  omega

/-- Letters and digits are not blank. -/
lemma isBlank_of_isAlphanum (h : c.isAlphanum = true) : isBlank c = false := by
  have hranges := toNat_of_isAlphanum h
  rw [Bool.eq_false_iff]
  intro hblank
  simp only [isBlank, isSpace, inRanges, spaceRanges, List.any_cons, List.any_nil, Bool.or_false,
    Bool.or_eq_true, Bool.and_eq_true, decide_eq_true_eq] at hblank
  omega

/-- A character among 26 in a row is one of them. -/
lemma exists_ofNat_add {start : Nat} (h : start ≤ c.toNat ∧ c.toNat < start + 26) :
    ∃ i : Fin 26, c = Char.ofNat (start + i) := by
  refine ⟨⟨c.toNat - start, by omega⟩, ?_⟩
  rw [Nat.add_sub_cancel' h.1, Char.ofNat_toNat]

/-- The small letter of a capital stands 32 code points behind it. -/
lemma toLower_of_isUpper (h : c.isUpper = true) : c.toLower = Char.ofNat (c.toNat + 32) := by
  obtain ⟨i, rfl⟩ := exists_ofNat_add (isUpper_iff.mp h)
  revert i
  decide

/-- What is no capital stays in small letters. -/
lemma toLower_of_not_isUpper (h : c.isUpper = false) : c.toLower = c := by
  have hrange : ¬('A'.val ≤ c.val ∧ c.val ≤ 'Z'.val) := of_decide_eq_false h
  unfold Char.toLower
  rw [dif_neg hrange]

/-- A small letter is no capital, and is the small letter of its capital. -/
lemma toUpper_of_isLower (h : c.isLower = true) :
    c.isUpper = false ∧ c.toUpper.isUpper = true ∧ c.toUpper.toLower = c := by
  obtain ⟨i, rfl⟩ := exists_ofNat_add (isLower_iff.mp h)
  revert i
  decide

/-- **The lower-case form of a text of ASCII**, character by character. -/
lemma lower_eq_map_toLower (h : ∀ c ∈ cs, c.toNat < 128) : lower cs = cs.map Char.toLower := by
  suffices H : ∀ before, lowerAfter before cs = cs.map Char.toLower from H []
  induction cs with
  | nil => intro _; rfl
  | cons c rest ih =>
      intro before
      have hlt := h c List.mem_cons_self
      have hne : c ≠ 'Σ' := by
        rintro rfl
        exact absurd hlt (by decide)
      have hchar : lowerChar c = [c.toLower] := by
        rw [lowerChar, if_pos hlt]
        split
        · next hupper => rw [toLower_of_isUpper hupper]
        · next hupper => rw [toLower_of_not_isUpper (Bool.eq_false_iff.mpr hupper)]
      rw [lowerAfter, if_neg hne, hchar, ih fun d hd => h d (List.mem_cons_of_mem _ hd)]
      rfl

/-- What is changed in a text that stands between others is changed in these and in the text. -/
lemma map_intercalate (f : Char → Char) (joint : List Char) (pieces : List (List Char)) :
    (joint.intercalate pieces).map f = (joint.map f).intercalate (pieces.map (List.map f)) := by
  induction pieces with
  | nil => rfl
  | cons piece rest ih =>
      cases rest with
      | nil => simp [List.intercalate_singleton]
      | cons second others =>
          simp only [List.map_cons] at ih ⊢
          rw [List.intercalate_cons_cons, List.intercalate_cons_cons, List.map_append,
            List.map_append, ih]

/-- What holds of the characters of texts and of the one between them holds of all characters. -/
lemma forall_mem_intercalate {p : Char → Prop} {pieces : List (List Char)} (hc : p c)
    (h : ∀ piece ∈ pieces, ∀ d ∈ piece, p d) : ∀ d ∈ [c].intercalate pieces, p d := by
  induction pieces with
  | nil => exact fun _ hnone => absurd hnone List.not_mem_nil
  | cons piece rest ih =>
      have hrest := ih fun other hother => h other (List.mem_cons_of_mem _ hother)
      have hpiece := h piece List.mem_cons_self
      cases rest with
      | nil =>
          rw [List.intercalate_singleton]
          exact hpiece
      | cons second others =>
          rw [List.intercalate_cons_cons, List.append_assoc, List.singleton_append]
          intro d hd
          rcases List.mem_append.mp hd with hd | hd
          · exact hpiece d hd
          · rcases List.mem_cons.mp hd with rfl | hd
            · exact hc
            · exact hrest d hd

end Text

namespace PathParameter

/-! ### Words, styles and blanks -/

/-- **A plain word**: a small letter, and behind it nothing but small letters and digits. -/
def IsPlainWord (word : String) : Prop :=
  ∃ c rest, word.toList = c :: rest ∧ c.isLower = true ∧
    ∀ d ∈ rest, d.isLower = true ∨ d.isDigit = true

/-- A word with a capital in front. -/
def capitalized (word : String) : String :=
  match word.toList with
  | [] => ""
  | c :: rest => String.ofList (c.toUpper :: rest)

/-- A style of names of several words. -/
inductive NameStyle
  /-- Every word but the first has a capital. -/
  | camel
  /-- Every word has a capital. -/
  | pascal
  /-- Underscores stand between the words. -/
  | snake
  /-- Hyphens stand between the words. -/
  | kebab

/-- **The name of words in a style.** -/
def NameStyle.spell : NameStyle → List String → String
  | camel, [] => ""
  | camel, first :: others => first ++ String.join (others.map capitalized)
  | pascal, words => String.join (words.map capitalized)
  | snake, words => "_".intercalate words
  | kebab, words => "-".intercalate words

/-- **A text with blanks inserted anywhere.** -/
inductive Spaced : List Char → List Char → Prop
  | nil : Spaced [] []
  | keep (c : Char) {cs ds : List Char} : Spaced cs ds → Spaced (c :: cs) (c :: ds)
  | blank {c : Char} {cs ds : List Char} :
      Text.isBlank c = true → Spaced cs ds → Spaced cs (c :: ds)

/-- Without its blanks a text is what blanks were inserted into. -/
lemma Spaced.filter_eq {cs ds : List Char} (h : Spaced cs ds)
    (hcs : ∀ c ∈ cs, Text.isBlank c = false) : ds.filter (!Text.isBlank ·) = cs := by
  induction h with
  | nil => rfl
  | keep c _ ih =>
      rw [List.filter_cons_of_pos (by simp [hcs c List.mem_cons_self]),
        ih fun d hd => hcs d (List.mem_cons_of_mem _ hd)]
  | blank hblank _ ih => rw [List.filter_cons_of_neg (by simp [hblank]), ih hcs]

/-! ### Words as they stand in a name -/

/-- **A word as it stands in a name**: as it is, or with a capital in front. -/
structure Writes (form : List Char) (word : String) : Prop where
  plain : IsPlainWord word
  eq_or_eq : form = word.toList ∨ form = (capitalized word).toList

/-- Small letters and digits are letters and digits, and no capitals. -/
lemma isAlphanum_and_not_isUpper {d : Char} (h : d.isLower = true ∨ d.isDigit = true) :
    d.isAlphanum = true ∧ d.isUpper = false := by
  rcases h with hlower | hdigit
  · obtain ⟨hupper, -⟩ := Text.toUpper_of_isLower hlower
    exact ⟨Text.isAlphanum_iff.mpr (Or.inr (Or.inl hlower)), hupper⟩
  · refine ⟨Text.isAlphanum_iff.mpr (Or.inr (Or.inr hdigit)), Bool.eq_false_iff.mpr fun hupper => ?_⟩
    rw [Text.isUpper_iff] at hupper
    rw [Text.isDigit_iff] at hdigit
    omega

/-- A plain word has no capitals. -/
lemma IsPlainWord.isUpper_eq_false {word : String} (h : IsPlainWord word) :
    ∀ d ∈ word.toList, d.isUpper = false := by
  obtain ⟨c, rest, hword, hc, hrest⟩ := h
  intro d hd
  rw [hword] at hd
  rcases List.mem_cons.mp hd with rfl | hd
  · exact (isAlphanum_and_not_isUpper (Or.inl hc)).2
  · exact (isAlphanum_and_not_isUpper (hrest d hd)).2

/-- A plain word with a capital starts with the capital of its first letter. -/
lemma IsPlainWord.exists_capital {word : String} (h : IsPlainWord word) :
    ∃ c rest, word.toList = c :: rest ∧ (capitalized word).toList = c.toUpper :: rest ∧
      c.toUpper.isUpper = true := by
  obtain ⟨c, rest, hword, hc, -⟩ := h
  obtain ⟨-, hcapital, -⟩ := Text.toUpper_of_isLower hc
  refine ⟨c, rest, hword, ?_, hcapital⟩
  rw [capitalized, hword]
  exact String.toList_ofList

namespace Writes

variable {form : List Char} {word : String}

/-- What stands for a word is a letter, and behind it are letters and digits that are no capitals. -/
lemma exists_cons (h : Writes form word) :
    ∃ c rest, form = c :: rest ∧ c.isAlphanum = true ∧ word.toList = c.toLower :: rest ∧
      ∀ d ∈ rest, d.isAlphanum = true ∧ d.isUpper = false := by
  obtain ⟨hplain, hform⟩ := h
  obtain ⟨d, rest', hword', hcapital, hupper⟩ := hplain.exists_capital
  obtain ⟨c, rest, hword, hc, hrest⟩ := hplain
  obtain ⟨rfl, rfl⟩ := List.cons.inj (hword'.symm.trans hword)
  have hsmall := fun e he => isAlphanum_and_not_isUpper (hrest e he)
  obtain ⟨hcase, -, hlower⟩ := Text.toUpper_of_isLower hc
  rcases hform with rfl | rfl
  · exact ⟨d, rest', hword, (isAlphanum_and_not_isUpper (Or.inl hc)).1,
      by rw [Text.toLower_of_not_isUpper hcase, hword], hsmall⟩
  · exact ⟨d.toUpper, rest', hcapital, Text.isAlphanum_iff.mpr (Or.inl hupper),
      by rw [hlower, hword], hsmall⟩

/-- What stands for a word consists of letters and digits. -/
lemma isAlphanum (h : Writes form word) : ∀ d ∈ form, d.isAlphanum = true := by
  obtain ⟨c, rest, rfl, hc, -, hrest⟩ := h.exists_cons
  intro d hd
  rcases List.mem_cons.mp hd with rfl | hd
  · exact hc
  · exact (hrest d hd).1

/-- In small letters it is the word. -/
lemma map_toLower (h : Writes form word) : form.map Char.toLower = word.toList := by
  obtain ⟨c, rest, rfl, -, hword, hrest⟩ := h.exists_cons
  have hsmall : rest.map Char.toLower = rest.map id := List.map_congr_left fun d hd =>
    Text.toLower_of_not_isUpper (hrest d hd).2
  rw [hword, List.map_cons, hsmall, List.map_id]

end Writes

/-! ### Hyphens in front of capitals -/

section Hyphens

variable {c d : Char} {cs rest form : List Char} {word : String} {words others : List String}

/-- A text without capitals behind its first character gets no hyphen. -/
lemma hyphenate_eq_self (h : ∀ d ∈ cs.tail, d.isUpper = false) : hyphenate cs = cs := by
  fun_induction hyphenate cs with
  | case1 => rfl
  | case2 => rfl
  | case3 c d rest hd =>
      rw [h d List.mem_cons_self] at hd
      cases hd
  | case4 c d rest _ ih => rw [ih fun e he => h e (List.mem_cons_of_mem _ he)]

/-- **A capital is split off** from what stands in front of it. -/
lemma hyphenate_append (h : ∀ d ∈ cs, d.isUpper = false) (hd : d.isUpper = true) :
    hyphenate (c :: cs ++ d :: rest) = c :: cs ++ '-' :: hyphenate (d :: rest) := by
  induction cs generalizing c with
  | nil => exact if_pos hd
  | cons e cs ih =>
      have he : ¬e.isUpper = true := by simp [h e List.mem_cons_self]
      rw [List.cons_append, List.cons_append, hyphenate, if_neg he, ← List.cons_append,
        ih fun a ha => h a (List.mem_cons_of_mem _ ha)]
      rfl

/-- Every character of a text is still there with the hyphens. -/
lemma mem_hyphenate (h : c ∈ cs) : c ∈ hyphenate cs := by
  fun_induction hyphenate cs with
  | case1 => exact h
  | case2 => exact h
  | case3 e f rest _ ih =>
      rcases List.mem_cons.mp h with rfl | h
      · exact List.mem_cons_self
      · exact List.mem_cons_of_mem _ (List.mem_cons_of_mem _ (ih h))
  | case4 e f rest _ ih =>
      rcases List.mem_cons.mp h with rfl | h
      · exact List.mem_cons_self
      · exact List.mem_cons_of_mem _ (ih h)

/-- **Words with capitals are split at each of them**, and not in front of the first word. -/
lemma hyphenate_capitals (hform : Writes form word) (hothers : ∀ w ∈ others, IsPlainWord w) :
    hyphenate (form ++ (String.join (others.map capitalized)).toList) =
      ['-'].intercalate (form :: others.map fun w => (capitalized w).toList) := by
  induction others generalizing form word with
  | nil =>
      obtain ⟨c, rest, rfl, -, -, hrest⟩ := hform.exists_cons
      rw [List.map_nil, List.map_nil, List.intercalate_singleton, String.toList_join,
        List.flatMap_nil, List.append_nil]
      exact hyphenate_eq_self fun d hd => (hrest d hd).2
  | cons second others ih =>
      have hplain := hothers second List.mem_cons_self
      have hnext := ih ⟨hplain, Or.inr rfl⟩ fun w hw => hothers w (List.mem_cons_of_mem _ hw)
      have hjoin : (String.join ((second :: others).map capitalized)).toList =
          (capitalized second).toList ++ (String.join (others.map capitalized)).toList := by
        simp [String.toList_join]
      obtain ⟨c, rest, rfl, -, -, hrest⟩ := hform.exists_cons
      obtain ⟨d, rest', -, hcapital, hupper⟩ := hplain.exists_capital
      calc hyphenate (c :: rest ++ (String.join ((second :: others).map capitalized)).toList)
          = hyphenate (c :: rest ++
              d.toUpper :: (rest' ++ (String.join (others.map capitalized)).toList)) := by
            rw [hjoin, hcapital]
            rfl
        _ = c :: rest ++ '-' ::
              hyphenate ((capitalized second).toList ++
                (String.join (others.map capitalized)).toList) := by
            rw [hyphenate_append (fun e he => (hrest e he).2) hupper, hcapital]
            rfl
        _ = ['-'].intercalate ((c :: rest) ::
              (second :: others).map fun w => (capitalized w).toList) := by
            rw [hnext, List.map_cons, List.intercalate_cons_cons, List.append_assoc,
              List.singleton_append]

/-- Words without capitals and with one character between them get no hyphen. -/
lemma hyphenate_intercalate (h : ∀ w ∈ words, IsPlainWord w) {joint : String}
    (hjoint : joint.toList = [c]) (hc : c.isUpper = false) :
    hyphenate (joint.intercalate words).toList = [c].intercalate (words.map String.toList) := by
  have hsmall : ∀ d ∈ [c].intercalate (words.map String.toList), d.isUpper = false := by
    refine Text.forall_mem_intercalate hc fun piece hpiece => ?_
    obtain ⟨w, hw, rfl⟩ := List.mem_map.mp hpiece
    exact (h w hw).isUpper_eq_false
  rw [String.toList_intercalate, hjoint]
  exact hyphenate_eq_self fun d hd => hsmall d (List.mem_of_mem_tail hd)

/-- **In every style** a name with its hyphens is its words, each perhaps with a capital, and hyphens
or underscores between them. -/
lemma hyphenate_spell (h : ∀ w ∈ words, IsPlainWord w) (style : NameStyle) :
    ∃ joint forms, (joint = '-' ∨ joint = '_') ∧ List.Forall₂ Writes forms words ∧
      hyphenate (style.spell words).toList = [joint].intercalate forms := by
  have hsmall : List.Forall₂ Writes (words.map String.toList) words :=
    List.forall₂_map_left_iff.mpr (List.forall₂_same.mpr fun w hw => ⟨h w hw, Or.inl rfl⟩)
  have hcapitals : List.Forall₂ Writes (words.map fun w => (capitalized w).toList) words :=
    List.forall₂_map_left_iff.mpr (List.forall₂_same.mpr fun w hw => ⟨h w hw, Or.inr rfl⟩)
  cases style with
  | snake => exact ⟨'_', _, Or.inr rfl, hsmall, hyphenate_intercalate h rfl rfl⟩
  | kebab => exact ⟨'-', _, Or.inl rfl, hsmall, hyphenate_intercalate h rfl rfl⟩
  | camel =>
      cases words with
      | nil => exact ⟨'-', [], Or.inl rfl, .nil, rfl⟩
      | cons first others =>
          have hfirst : Writes first.toList first := ⟨h first List.mem_cons_self, Or.inl rfl⟩
          have hothers := fun w hw => h w (List.mem_cons_of_mem first hw)
          refine ⟨'-', _, Or.inl rfl, .cons hfirst (List.forall₂_cons.mp hcapitals).2, ?_⟩
          rw [NameStyle.spell, String.toList_append, hyphenate_capitals hfirst hothers]
  | pascal =>
      cases words with
      | nil => exact ⟨'-', [], Or.inl rfl, .nil, rfl⟩
      | cons first others =>
          have hfirst : Writes (capitalized first).toList first :=
            ⟨h first List.mem_cons_self, Or.inr rfl⟩
          have hothers := fun w hw => h w (List.mem_cons_of_mem first hw)
          refine ⟨'-', _, Or.inl rfl, hcapitals, ?_⟩
          rw [NameStyle.spell, List.map_cons, List.map_cons, ← hyphenate_capitals hfirst hothers]
          simp [String.toList_join]

end Hyphens

/-! ### Names in words -/

variable {words : List String}

/-- What stands for one of several words stands for a word. -/
lemma exists_writes {forms : List (List Char)} {form : List Char}
    (h : List.Forall₂ Writes forms words) (hform : form ∈ forms) : ∃ word, Writes form word := by
  induction h with
  | nil => cases hform
  | cons hfirst _ ih =>
      rcases List.mem_cons.mp hform with rfl | hform
      · exact ⟨_, hfirst⟩
      · exact ih hform

/-- The characters of words and of what stands between them are of ASCII and not blank. -/
lemma of_mem_written {joint : Char} (hjoint : joint = '-' ∨ joint = '_') {forms : List (List Char)}
    (h : List.Forall₂ Writes forms words) :
    ∀ c ∈ [joint].intercalate forms, c.toNat < 128 ∧ Text.isBlank c = false := by
  refine Text.forall_mem_intercalate (by rcases hjoint with rfl | rfl <;> decide) ?_
  intro form hform d hd
  obtain ⟨word, hwrites⟩ := exists_writes h hform
  have halphanum := hwrites.isAlphanum d hd
  have hranges := Text.toNat_of_isAlphanum halphanum
  exact ⟨by omega, Text.isBlank_of_isAlphanum halphanum⟩

/-- What stands in words for a character of a name with hyphens. -/
def inWords (c : Char) : Char :=
  if c = '-' || c = '_' then ' ' else c

/-- A plain word is in words what it is. -/
lemma IsPlainWord.map_inWords {word : String} (h : IsPlainWord word) :
    word.toList.map inWords = word.toList := by
  have hsame : ∀ c ∈ word.toList, inWords c = id c := by
    intro c hc
    have hranges := Text.toNat_of_isAlphanum (Writes.isAlphanum ⟨h, Or.inl rfl⟩ c hc)
    refine if_neg fun hjoint => ?_
    rcases (Bool.or_eq_true_iff.mp hjoint).imp of_decide_eq_true of_decide_eq_true with rfl | rfl
    · exact absurd hranges (by decide)
    · exact absurd hranges (by decide)
  rw [List.map_congr_left hsame, List.map_id]

/-- In small letters what stands for words is the words. -/
lemma map_map_toLower {forms : List (List Char)} (h : List.Forall₂ Writes forms words) :
    forms.map (List.map Char.toLower) = words.map String.toList := by
  induction h with
  | nil => rfl
  | cons hfirst _ ih => rw [List.map_cons, List.map_cons, hfirst.map_toLower, ih]

/-- **All styles are the same in words.** A name of plain words, in any style and with blanks inserted
anywhere, is in words the words with single spaces between them. -/
theorem humanize_spell (h : ∀ w ∈ words, IsPlainWord w) (style : NameStyle) {name : String}
    (hname : Spaced (style.spell words).toList name.toList) :
    humanize name = " ".intercalate words := by
  obtain ⟨joint, forms, hjoint, hforms, hspell⟩ := hyphenate_spell h style
  have hchars := of_mem_written hjoint hforms
  have hblank : ∀ c ∈ (style.spell words).toList, Text.isBlank c = false := fun c hc =>
    (hchars c (hspell ▸ mem_hyphenate hc)).2
  have hjoints : ([joint].map Char.toLower).map inWords = [' '] := by
    rcases hjoint with rfl | rfl <;> rfl
  have hwords : (words.map String.toList).map (List.map inWords) = words.map String.toList := by
    rw [List.map_map]
    exact List.map_congr_left fun w hw => (h w hw).map_inWords
  calc humanize name
      = String.ofList ((Text.lower ([joint].intercalate forms)).map inWords) := by
        rw [humanize, hname.filter_eq hblank, hspell]
        rfl
    _ = String.ofList
          ((([joint].map Char.toLower).intercalate (words.map String.toList)).map inWords) := by
        rw [Text.lower_eq_map_toLower fun c hc => (hchars c hc).1, Text.map_intercalate,
          map_map_toLower hforms]
    _ = String.ofList ([' '].intercalate (words.map String.toList)) := by
        rw [Text.map_intercalate, hjoints, hwords]
    _ = " ".intercalate words := by
        rw [← String.toList_inj, String.toList_ofList, String.toList_intercalate]
        rfl

/-- The words a, b2 and user, with a capital each and blanks around the second of them. -/
theorem humanize_spell_blanks :
    humanize "A\tB2 User" = " ".intercalate ["a", "b2", "user"] := by
  refine humanize_spell (fun w hw => ?_) .pascal ?_
  · simp only [List.mem_cons, List.not_mem_nil, or_false] at hw
    rcases hw with rfl | rfl | rfl
    · exact ⟨'a', [], rfl, rfl, fun d hd => absurd hd List.not_mem_nil⟩
    · refine ⟨'b', ['2'], rfl, rfl, fun d hd => ?_⟩
      rw [List.mem_singleton.mp hd]
      exact Or.inr rfl
    · refine ⟨'u', ['s', 'e', 'r'], rfl, rfl, fun d hd => ?_⟩
      simp only [List.mem_cons, List.not_mem_nil, or_false] at hd
      rcases hd with rfl | rfl | rfl <;> exact Or.inl rfl
  · exact .keep 'A' <| .blank rfl <| .keep 'B' <| .keep '2' <| .blank rfl <| .keep 'U' <|
      .keep 's' <| .keep 'e' <| .keep 'r' .nil

end PathParameter

end RouteAtlas
