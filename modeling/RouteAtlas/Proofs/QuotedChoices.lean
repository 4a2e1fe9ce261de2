/-
Choices in quotes.

A list of choices can be written as it is in tables of text: each value in quotes, every quote in it
doubled, and commas between the values. Such a list is read value by value: the blanks around a value
and all quotes around it are left out, and two quotes become one again. So a value loses its own
quotes at either end, and only these.

* `Rule.inQuotes`, `Rule.quotedChoices`: a value in quotes, and the token that lists such values.
* `Rule.Bare`: a value without the quotes around it.
* `Rule.replaceAll_doubled`, `Rule.ofList_choice_inQuotes`: doubled quotes are read as they were, and
  **a value in quotes is read as the bare value**.
* `Rule.choices_quotedChoices`: the choices of a list, value by value.
* `Rule.interpret_choices`: a field with a list of choices and nothing else.
* `Rule.choices_bare`: **the choices are the bare values**.
-/
import Mathlib.Data.List.Forall2
import RouteAtlas.Proofs.Components
import RouteAtlas.Proofs.QualifiedName
import RouteAtlas.Proofs.RuleMeaning

namespace RouteAtlas.Rule

/-! ### Values in quotes -/

/-- A text with every quote in it doubled. -/
def doubled (cs : List Char) : List Char :=
  cs.flatMap fun c => if c = '\x22' then [c, c] else [c]

/-- A value in quotes. -/
def inQuotes (value : String) : String :=
  String.ofList ('\x22' :: (doubled value.toList ++ ['\x22']))

/-- The token that lists values in quotes. -/
def quotedChoices (values : List String) : String :=
  "in:" ++ ",".intercalate (values.map inQuotes)

/-- **A value without the quotes around it**: nothing but quotes was left out at either end, and none
is left there. -/
structure Bare (value bare : String) : Prop where
  around : ∃ before after, value.toList =
    List.replicate before '\x22' ++ (bare.toList ++ List.replicate after '\x22')
  head : bare.toList.head? ≠ some '\x22'
  last : bare.toList.getLast? ≠ some '\x22'

/-! ### Doubled quotes -/

section Doubled

variable {c : Char} {cs ds : List Char}

/-- A quote in front is doubled. -/
lemma doubled_quote : doubled ('\x22' :: cs) = '\x22' :: '\x22' :: doubled cs := rfl

/-- Anything else in front stays. -/
lemma doubled_of_ne (h : c ≠ '\x22') : doubled (c :: cs) = c :: doubled cs := by
  rw [doubled, List.flatMap_cons, if_neg h]
  rfl

/-- The parts of a text are doubled by themselves. -/
lemma doubled_append : doubled (cs ++ ds) = doubled cs ++ doubled ds :=
  List.flatMap_append

/-- No other character appears. -/
lemma mem_doubled : c ∈ doubled cs ↔ c ∈ cs := by
  induction cs with
  | nil => rfl
  | cons d cs ih =>
      by_cases hd : d = '\x22'
      · rw [hd, doubled_quote, List.mem_cons, List.mem_cons, List.mem_cons, ih, or_self_left]
      · rw [doubled_of_ne hd, List.mem_cons, List.mem_cons, ih]

/-- Doubling keeps the first character. -/
lemma head?_doubled : (doubled cs).head? = cs.head? := by
  cases cs with
  | nil => rfl
  | cons d cs =>
      by_cases hd : d = '\x22'
      · rw [hd, doubled_quote, List.head?_cons, List.head?_cons]
      · rw [doubled_of_ne hd, List.head?_cons, List.head?_cons]

/-- A text is doubled backwards as it is forwards. -/
lemma reverse_doubled : (doubled cs).reverse = doubled cs.reverse := by
  rw [doubled, doubled, List.reverse_flatMap]
  refine List.flatMap_congr fun d _ => ?_
  rw [Function.comp_apply]
  split <;> rfl

/-- Doubling keeps the last character. -/
lemma getLast?_doubled : (doubled cs).getLast? = cs.getLast? := by
  rw [← List.head?_reverse, reverse_doubled, head?_doubled, List.head?_reverse]

/-- **Doubled quotes are read as they were.** -/
lemma replaceAll_doubled (cs : List Char) :
    Text.replaceAll ['\x22', '\x22'] ['\x22'] (doubled cs) = cs := by
  induction cs with
  | nil => rw [doubled, List.flatMap_nil, Text.replaceAll]
  | cons d cs ih =>
      by_cases hd : d = '\x22'
      · have hpair : ['\x22', '\x22'].isPrefixOf ('\x22' :: '\x22' :: doubled cs) = true := rfl
        rw [hd, doubled_quote, Text.replaceAll, if_pos hpair]
        exact congrArg (List.cons '\x22') ih
      · have hother : ¬['\x22', '\x22'].isPrefixOf (d :: doubled cs) = true := by
          simp [List.isPrefixOf, Ne.symm hd]
        rw [doubled_of_ne hd, Text.replaceAll, if_neg hother, ih]

end Doubled

/-! ### One value -/

section Value

variable {value bare : String}

/-- The characters of a value in quotes. -/
lemma toList_inQuotes (value : String) :
    (inQuotes value).toList = '\x22' :: (doubled value.toList ++ ['\x22']) :=
  String.toList_ofList

/-- A value in quotes has no characters but those of the value and quotes. -/
lemma mem_inQuotes {c : Char} (hc : c ≠ '\x22') : c ∈ (inQuotes value).toList ↔ c ∈ value.toList := by
  rw [toList_inQuotes]
  simp [hc, mem_doubled]

/-- The quotes on the outside keep the blanks of a value from those around it. -/
lemma trim_isBlank_inQuotes (value : String) :
    Text.trim Text.isBlank (inQuotes value).toList = (inQuotes value).toList := by
  rw [toList_inQuotes]
  refine (Text.trim_eq_iff ?_ ?_).mpr ⟨[], [], by simp, by simp, by simp⟩
  · rintro c ⟨⟩
    decide
  · rintro c hc
    rw [← List.cons_append, List.getLast?_concat] at hc
    cases hc
    decide

/-- All quotes around a value are left out with those on the outside. -/
lemma trim_quotes_inQuotes (h : Bare value bare) :
    Text.trim (· == '\x22') (inQuotes value).toList = doubled bare.toList := by
  obtain ⟨⟨before, after, hvalue⟩, hhead, hlast⟩ := h
  rw [← head?_doubled] at hhead
  rw [← getLast?_doubled] at hlast
  refine (Text.trim_eq_iff (Text.forall_beq_eq_false_iff.mpr hhead)
    (Text.forall_beq_eq_false_iff.mpr hlast)).mpr
    ⟨'\x22' :: doubled (List.replicate before '\x22'),
      doubled (List.replicate after '\x22') ++ ['\x22'], ?_, ?_, ?_⟩
  · simp [mem_doubled]
  · simp [mem_doubled, or_imp]
  · rw [toList_inQuotes, hvalue, doubled_append, doubled_append]
    simp

/-- **A value in quotes is read as the bare value.** -/
lemma ofList_choice_inQuotes (h : Bare value bare) :
    String.ofList (choice (inQuotes value).toList) = bare := by
  rw [choice, trim_isBlank_inQuotes, trim_quotes_inQuotes h, replaceAll_doubled,
    String.ofList_toList]

/-- There is always a bare value. -/
lemma exists_bare (value : String) : ∃ bare, Bare value bare := by
  have hhead : ∀ c ∈ (Text.trim (· == '\x22') value.toList).head?, (c == '\x22') = false :=
    fun _ => Text.not_of_mem_head?_trim
  have hlast : ∀ c ∈ (Text.trim (· == '\x22') value.toList).getLast?, (c == '\x22') = false :=
    fun _ => Text.not_of_mem_getLast?_trimRight
  obtain ⟨before, after, hbefore, hafter, hvalue⟩ := (Text.trim_eq_iff hhead hlast).mp rfl
  have hquotes : ∀ {cs : List Char}, (∀ c ∈ cs, (c == '\x22') = true) →
      cs = List.replicate cs.length '\x22' := fun hcs =>
    List.eq_replicate_of_mem fun c hc => beq_iff_eq.mp (hcs c hc)
  refine ⟨String.ofList (Text.trim (· == '\x22') value.toList), ?_, ?_, ?_⟩
  · refine ⟨before.length, after.length, ?_⟩
    rw [← hquotes hbefore, ← hquotes hafter, String.toList_ofList]
    exact hvalue
  · rw [String.toList_ofList]
    exact Text.forall_beq_eq_false_iff.mp hhead
  · rw [String.toList_ofList]
    exact Text.forall_beq_eq_false_iff.mp hlast

/-- A value in quotes is read as its bare value and as nothing else. -/
lemma ofList_choice_inQuotes_eq_iff :
    String.ofList (choice (inQuotes value).toList) = bare ↔ Bare value bare := by
  refine ⟨?_, ofList_choice_inQuotes⟩
  rintro rfl
  obtain ⟨bare, hbare⟩ := exists_bare value
  rwa [ofList_choice_inQuotes hbare]

/-- A value is bare itself exactly if it neither starts nor ends with a quote. -/
lemma bare_self_iff :
    Bare value value ↔ value.toList.head? ≠ some '\x22' ∧ value.toList.getLast? ≠ some '\x22' :=
  ⟨fun h => ⟨h.head, h.last⟩, fun h => ⟨⟨0, 0, by simp⟩, h.1, h.2⟩⟩

end Value

/-! ### Lists of choices -/

/-- Every value of a list is read by itself. -/
lemma choices_quotedChoices {values : List String} (h : ∀ value ∈ values, ',' ∉ value.toList) :
    choices (quotedChoices values) =
      values.map fun value => String.ofList (choice (inQuotes value).toList) := by
  have hbody : (quotedChoices values).toList.drop 3 =
      (",".intercalate (values.map inQuotes)).toList := by
    rw [quotedChoices, String.toList_append]
    rfl
  cases values with
  | nil =>
      rw [choices, hbody]
      rfl
  | cons first others =>
      have hcommas : ∀ word ∈ (first :: others).map inQuotes, ',' ∉ word.toList := by
        intro word hword
        obtain ⟨value, hvalue, rfl⟩ := List.mem_map.mp hword
        rw [mem_inQuotes (by decide)]
        exact h value hvalue
      have hne : (first :: others).map inQuotes ≠ [] := List.cons_ne_nil _ _
      have hpieces := Text.splitOn_intercalate (show ",".toList = [','] from rfl) hne hcommas
      rw [choices, hbody]
      split
      · next hnil =>
        -- the first value has quotes around it, so that something stands in the list
        rw [hnil] at hpieces
        have hfirst : (inQuotes first).toList = [] := (List.cons.inj hpieces).1.symm
        rw [toList_inQuotes] at hfirst
        cases hfirst
      · rw [hpieces, List.map_map, List.map_map]
        rfl

/-- A field with a list of choices and nothing else is a text that is one of them. -/
lemma interpret_choices (field : String) {word : String} (h : StartsWith "in:" word) :
    interpret field (.list [.text word]) =
      .ok ⟨field, .query, "", false, .string ⟨false, (choices word).map .text⟩⟩ := by
  obtain ⟨rest, hrest⟩ := h
  have hne : ∀ other : String, other.toList.take 3 ≠ "in:".toList → ¬other = word := by
    rintro other hother rfl
    exact hother (by rw [← hrest]; rfl)
  have hkey : isForeignKey word = false := by
    rw [Bool.eq_false_iff, ne_eq, isForeignKey_iff]
    rintro ⟨table, column, hword⟩
    rw [hword] at hrest
    cases hrest
  have hkind : kindOf [word] = .string := by
    rw [kindOf]
    simp [hkey, hne "bool" (by decide), hne "boolean" (by decide), hne "numeric" (by decide),
      hne "integer" (by decide), hne "int" (by decide)]
  have hfirst : first? "in:" [word] = some word := by
    rw [first?, List.find?_cons_of_pos]
    exact decide_eq_true ⟨rest, hrest⟩
  have hmodifiers : modifiers [word] = ⟨false, (choices word).map .text⟩ := by
    rw [modifiers, choicesOf_eq, hfirst]
    simp [hne "nullable" (by decide)]
  have hwords : words (.list [.text word]) = [word] := rfl
  have hrequired : [word].contains "required" = false := by simp [hne "required" (by decide)]
  rw [interpret_eq, hwords, schema, hkind, hmodifiers, hrequired]
  rfl

/-- **The choices of a list of values in quotes are the bare values**, in their order and as often as
they stand there. So they are the values themselves exactly if none of these starts or ends with a
quote. A field with such a list is a text that is one of the choices. -/
theorem choices_bare {values : List String} (h : ∀ value ∈ values, ',' ∉ value.toList) :
    (∀ bares, choices (quotedChoices values) = bares ↔ List.Forall₂ Bare values bares) ∧
    (choices (quotedChoices values) = values ↔ ∀ value ∈ values,
      value.toList.head? ≠ some '\x22' ∧ value.toList.getLast? ≠ some '\x22') ∧
    ∀ field, interpret field (.list [.text (quotedChoices values)]) =
      .ok ⟨field, .query, "", false,
        .string ⟨false, (choices (quotedChoices values)).map .text⟩⟩ := by
  have hbares : ∀ bares,
      choices (quotedChoices values) = bares ↔ List.Forall₂ Bare values bares := by
    intro bares
    rw [choices_quotedChoices h, ← List.forall₂_eq_eq_eq, List.forall₂_map_left_iff]
    simp only [ofList_choice_inQuotes_eq_iff]
  refine ⟨hbares, ?_, fun field => interpret_choices field ?_⟩
  · rw [hbares, List.forall₂_same]
    simp only [bare_self_iff]
  · rw [StartsWith, quotedChoices, String.toList_append]
    exact List.prefix_append _ _

/-- Values of nothing and of one quote, with quotes, bars and blanks inside and at their ends, and
one value twice. -/
def nestedQuotes : List String :=
  ["", "\x22", "say \x22hi\x22", " a|b\x22 ", "\x22\x22x\x22\x22y", "z", "z"]

/-- **Nested quotes**: those at the ends of a value are lost, with all that stand beside them, and no
others; without values there are no choices. -/
theorem nestedQuotes_bare :
    choices (quotedChoices nestedQuotes) =
        ["", "", "say \x22hi", " a|b\x22 ", "x\x22\x22y", "z", "z"] ∧
      choices (quotedChoices nestedQuotes) ≠ nestedQuotes ∧
      interpret "word" (.list [.text (quotedChoices nestedQuotes)]) =
        .ok ⟨"word", .query, "", false, .string ⟨false, [.text "", .text "", .text "say \x22hi",
          .text " a|b\x22 ", .text "x\x22\x22y", .text "z", .text "z"]⟩⟩ ∧
      choices (quotedChoices []) = [] := by
  obtain ⟨hbares, hself, hfield⟩ := @choices_bare nestedQuotes (by decide)
  have hread : choices (quotedChoices nestedQuotes) =
      ["", "", "say \x22hi", " a|b\x22 ", "x\x22\x22y", "z", "z"] := by
    exact (hbares _).mpr (.cons (bare_self_iff.mpr (by decide)) <|
      .cons ⟨⟨1, 0, by decide⟩, by decide, by decide⟩ <|
      .cons ⟨⟨0, 1, by decide⟩, by decide, by decide⟩ <|
      .cons (bare_self_iff.mpr (by decide)) <|
      .cons ⟨⟨2, 0, by decide⟩, by decide, by decide⟩ <|
      .cons (bare_self_iff.mpr (by decide)) <|
      .cons (bare_self_iff.mpr (by decide)) .nil)
  refine ⟨hread, ?_, ?_, ((choices_bare (by decide)).1 _).mpr .nil⟩
  · rw [ne_eq, hself]
    decide
  · rw [hfield, hread]
    rfl

end RouteAtlas.Rule
