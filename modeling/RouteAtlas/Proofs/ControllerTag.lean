/-
The tag of a controller.

Operations are tagged with the short name of the class of their handler, and the word at the end of
the short names of controllers is not part of the tag. This word is removed wherever it stands, so a
tag is the short name without its suffix exactly if the word does not stand in front of the suffix as
well.

* `Text.replaceAll_eq_self_iff`: nothing is removed exactly from the texts in which the word does not
  occur; `Text.replaceAll_append_word`: **a word at the end adds nothing**, however the text in front
  of it ends.
* `ClassInfo.IsQualifier`, `ClassInfo.IsMixed`, `ClassInfo.HasStem`: what stands in front of a short
  name, and the short name without its suffix.
* `ClassInfo.basename_eq`, `ClassInfo.dot_mem_basename`: the last segment of a name is the short
  name, unless the separator in front of it is not the one of the class.
* `ClassInfo.tag_eq_iff`: **the tag is the short name without its suffix** unless the word stands in
  it.
* `Generator.withoutAdjustment`, `Generator.resolve_of_withoutAdjustment`: an operation as the host is
  given it for its last change.
* `Generator.resolve_tag_iff`: the same of the last tag of every such operation.
-/
import RouteAtlas.Proofs.ClassName

namespace RouteAtlas

/-! ### Removing a word -/

namespace Text

section Removing

variable {word cs rest tail : List Char} {c : Char}

/-- A word in front is removed. -/
lemma replaceAll_append (hword : word ≠ []) (rest : List Char) :
    replaceAll word [] (word ++ rest) = replaceAll word [] rest := by
  cases word with
  | nil => exact absurd rfl hword
  | cons c tail =>
      have hstarts : (c :: tail).isPrefixOf (c :: (tail ++ rest)) = true :=
        List.isPrefixOf_iff_prefix.mpr (List.prefix_append (c :: tail) rest)
      rw [List.cons_append, replaceAll, if_pos hstarts]
      simp

/-- A character that the word does not start with stays. -/
lemma replaceAll_cons (h : ¬word <+: c :: rest) :
    replaceAll word [] (c :: rest) = c :: replaceAll word [] rest := by
  rw [replaceAll, if_neg fun hstarts => h (List.isPrefixOf_iff_prefix.mp hstarts)]

/-- **Texts in the order in which a word is removed from them**: what is proved of a text is proved of
the text behind the word, if it starts with it, and else of the text behind its first character. -/
lemma removal_induction {motive : List Char → Prop} (hword : word ≠ []) (empty : motive [])
    (removed : ∀ rest, motive rest → motive (word ++ rest))
    (kept : ∀ c rest, ¬word <+: c :: rest → motive rest → motive (c :: rest)) (cs : List Char) :
    motive cs := by
  fun_induction replaceAll word [] cs with
  | case1 => exact empty
  | case2 c rest hstarts ih =>
      obtain ⟨after, hafter⟩ := List.isPrefixOf_iff_prefix.mp hstarts
      have hdrop : rest.drop (word.length - 1) = after := by
        obtain ⟨d, tail, rfl⟩ := List.exists_cons_of_ne_nil hword
        obtain ⟨-, rfl⟩ := List.cons.inj hafter
        simp
      rw [← hafter]
      exact removed after (hdrop ▸ ih)
  | case3 c rest hstarts ih =>
      exact kept c rest (fun h => hstarts (List.isPrefixOf_iff_prefix.mpr h)) ih

/-- Removing a word makes no text longer. -/
lemma length_replaceAll_le (hword : word ≠ []) (cs : List Char) :
    (replaceAll word [] cs).length ≤ cs.length := by
  induction cs using removal_induction hword with
  | empty => simp [replaceAll]
  | removed rest ih =>
      rw [replaceAll_append hword, List.length_append]
      omega
  | kept c rest hkept ih =>
      rw [replaceAll_cons hkept, List.length_cons, List.length_cons]
      omega

/-- **Nothing is removed** exactly from the texts in which the word does not occur. -/
lemma replaceAll_eq_self_iff (hword : word ≠ []) : replaceAll word [] cs = cs ↔ ¬word <:+: cs := by
  induction cs using removal_induction hword with
  | empty => simp [replaceAll, hword]
  | removed rest ih =>
      have hle := length_replaceAll_le hword rest
      have hpos := List.length_pos_iff.mpr hword
      refine iff_of_false (fun heq => ?_) fun hnot => hnot (List.prefix_append word rest).isInfix
      have hlength := congrArg List.length heq
      rw [replaceAll_append hword, List.length_append] at hlength
      omega
  | kept c rest hkept ih =>
      rw [replaceAll_cons hkept, List.cons_inj_right, ih, List.infix_cons_iff, or_iff_right hkept]

/-- Characters that are not in a word stay when it is removed. -/
lemma mem_replaceAll (hword : word ≠ []) (hc : c ∉ word) (h : c ∈ cs) :
    c ∈ replaceAll word [] cs := by
  induction cs using removal_induction hword with
  | empty => exact absurd h List.not_mem_nil
  | removed rest ih =>
      rw [replaceAll_append hword]
      exact ih ((List.mem_append.mp h).resolve_left hc)
  | kept d rest hkept ih =>
      rw [replaceAll_cons hkept]
      rcases List.mem_cons.mp h with rfl | h
      · exact List.mem_cons_self
      · exact List.mem_cons_of_mem _ (ih h)

/-- A text in front of a word starts with the word if both together do, and the first character of the
word is not repeated in it. -/
lemma prefix_of_prefix_append (hc : c ∉ tail) (hcs : cs ≠ [])
    (h : c :: tail <+: cs ++ c :: tail) : c :: tail <+: cs := by
  rcases List.prefix_or_prefix_of_prefix h (List.prefix_append cs (c :: tail)) with hle | hle
  · exact hle
  · obtain ⟨left, hleft⟩ := hle
    cases left with
    | nil => exact (hleft.symm.trans (List.append_nil cs)) ▸ List.prefix_rfl
    | cons e left =>
        -- what the word has behind `cs` starts as the word does, although it is part of `tail`
        rw [← hleft, List.prefix_append_right_inj, hleft] at h
        obtain ⟨rfl, -⟩ := List.cons_prefix_cons.mp h
        obtain ⟨d, before, rfl⟩ := List.exists_cons_of_ne_nil hcs
        have htail : before ++ e :: left = tail := (List.cons.inj hleft).2
        exact absurd (htail ▸ List.mem_append_right before List.mem_cons_self) hc

/-- **A word at the end adds nothing** to what is left of a text, if its first character is not
repeated in it. -/
lemma replaceAll_append_word (hc : c ∉ tail) (cs : List Char) :
    replaceAll (c :: tail) [] (cs ++ c :: tail) = replaceAll (c :: tail) [] cs := by
  have hword : c :: tail ≠ [] := List.cons_ne_nil c tail
  induction cs using removal_induction hword with
  | empty =>
      have hwhole := replaceAll_append hword []
      rwa [List.append_nil] at hwhole
  | removed rest ih =>
      rw [List.append_assoc, replaceAll_append hword, replaceAll_append hword, ih]
  | kept d rest hkept ih =>
      have hkept' : ¬c :: tail <+: d :: (rest ++ c :: tail) := fun h =>
        hkept (prefix_of_prefix_append hc (List.cons_ne_nil d rest) h)
      rw [List.cons_append, replaceAll_cons hkept', replaceAll_cons hkept, ih]

end Removing

end Text

/-! ### Short names -/

namespace ClassInfo

/-- **What stands in front of a short name**: nothing, or a namespace and a separator. -/
inductive IsQualifier : String → Prop
  | none : IsQualifier ""
  | scope (scope : String) {sep : Char} :
      sep = '.' ∨ sep = '\\' → IsQualifier (scope ++ String.singleton sep)

/-- Whether a dot stands in front of the short name although the separator of the class is a
backslash. -/
def IsMixed (qualifier : String) : Prop :=
  '\\' ∈ qualifier.toList ∧ qualifier.toList.getLast? = some '.'

/-- **A short name behind a qualifier, without its suffix.** -/
structure HasStem (c : ClassInfo) (qualifier stem : String) : Prop where
  isQualifier : IsQualifier qualifier
  dot_notMem : '.' ∉ stem.toList
  backslash_notMem : '\\' ∉ stem.toList
  name : c.name = qualifier ++ stem ++ "Controller" ∨
    c.name = qualifier ++ stem ∧ ¬"Controller".toList <:+ stem.toList

variable {c : ClassInfo} {qualifier short stem : String}

/-- **The last segment is the short name** unless a dot stands behind a backslash in front of it. -/
lemma basename_eq (hqualifier : IsQualifier qualifier) (hmixed : ¬IsMixed qualifier)
    (hdot : '.' ∉ short.toList) (hbackslash : '\\' ∉ short.toList)
    (hname : c.name = qualifier ++ short) : c.basename = short := by
  have hshort : c.separator ∉ short.toList := by
    rw [separator_eq]
    split
    · exact hbackslash
    · exact hdot
  cases hqualifier with
  | none =>
      rw [String.empty_append] at hname
      rw [basename_of_not_mem (hname ▸ hshort), hname]
  | @scope scope sep hsep =>
      have hchars : c.name.toList = scope.toList ++ sep :: short.toList := by simp [hname]
      have hseparator : c.separator = sep := by
        rcases hsep with rfl | rfl
        · have hscope : '\\' ∉ scope.toList := fun hmem =>
            hmixed ⟨by simp [hmem], by simp⟩
          rw [separator_eq, if_neg (by simp [hchars, hscope, hbackslash])]
        · rw [separator_eq, if_pos (by simp [hchars])]
      rw [basename_of_append (hseparator ▸ hchars) hshort, String.ofList_toList]

/-- If a dot stands behind a backslash in front of the short name, it is part of the last segment. -/
lemma dot_mem_basename (hmixed : IsMixed qualifier) (hbackslash : '\\' ∉ short.toList)
    (hname : c.name = qualifier ++ short) : '.' ∈ c.basename.toList := by
  obtain ⟨hmem, hlast⟩ := hmixed
  obtain ⟨before, after, hqualifier, hafter⟩ := Text.exists_last_of_mem hmem
  have hchars : c.name.toList = before ++ '\\' :: (after ++ short.toList) := by
    rw [hname, String.toList_append, hqualifier, List.append_assoc, List.cons_append]
  have hseparator : c.separator = '\\' := by
    rw [separator_eq, if_pos (by simp [hchars])]
  have hdot : '.' ∈ after := by
    rw [hqualifier, List.getLast?_append_cons] at hlast
    rcases List.mem_cons.mp (List.mem_of_getLast? hlast) with hslash | hdot
    · exact absurd hslash (by decide)
    · exact hdot
  rw [basename_of_append (hseparator ▸ hchars) (by simp [hseparator, hafter, hbackslash])]
  simp [hdot]

/-- Without the word for controllers a short name is its stem without it. -/
lemma HasStem.exists_short (h : c.HasStem qualifier stem) :
    ∃ short, c.name = qualifier ++ short ∧ '.' ∉ short.toList ∧ '\\' ∉ short.toList ∧
      Text.replaceAll "Controller".toList [] short.toList =
        Text.replaceAll "Controller".toList [] stem.toList := by
  have hdot := h.dot_notMem
  have hbackslash := h.backslash_notMem
  rcases h.name with hname | ⟨hname, -⟩
  · refine ⟨stem ++ "Controller", ?_, by simp [hdot], by simp [hbackslash], ?_⟩
    · rw [hname, String.append_assoc]
    · rw [String.toList_append]
      exact Text.replaceAll_append_word (by decide) stem.toList
  · exact ⟨stem, hname, hdot, hbackslash, rfl⟩

/-- **The tag of a class is its short name without the suffix** exactly if the word for controllers
does not stand in the rest of it, and the separator in front of it is the one of the class. -/
lemma tag_eq_iff (h : c.HasStem qualifier stem) :
    c.tag = stem ↔ ¬IsMixed qualifier ∧ ¬"Controller".toList <:+: stem.toList := by
  have hword : "Controller".toList ≠ [] := by decide
  obtain ⟨short, hname, hdot, hbackslash, hremoved⟩ := h.exists_short
  by_cases hmixed : IsMixed qualifier
  · refine iff_of_false (fun htag => h.dot_notMem ?_) fun hnot => hnot.1 hmixed
    have hmem := dot_mem_basename hmixed hbackslash hname
    have hkept := Text.mem_replaceAll hword (by decide) hmem
    rwa [← htag, tag, String.toList_ofList]
  · rw [and_iff_right hmixed, tag, basename_eq h.isQualifier hmixed hdot hbackslash hname, hremoved,
      ← String.toList_inj, String.toList_ofList, Text.replaceAll_eq_self_iff hword]

end ClassInfo

/-! ### Operations before their last change -/

namespace Generator

variable {g : Generator} {r : Route} {e : Endpoint} {k k' : Registry} {path : String}
  {op : Operation}

/-- A generator without the last change that the host makes to every operation. -/
def withoutAdjustment (g : Generator) : Generator :=
  { g with adjust := fun op _ => .ok op }

/-- **The last change is made to an operation that is finished otherwise**, and the last tag of this
operation is the class of its handler. -/
lemma resolve_of_withoutAdjustment (he : r.endpoint? = some e)
    (h : g.withoutAdjustment.resolve r k = (.ok (some (path, op)), k')) :
    g.resolve r k = ((g.adjust op e).map fun op' => some (path, op'), k') ∧
      op.tags.getLast? = some e.classInfo.tag := by
  obtain ⟨e', method, outline, responses, he', hmethod, houtline, hresponses, hpath, hop⟩ :=
    exists_of_resolve h
  obtain rfl : e = e' := Option.some.inj (he.symm.trans he')
  obtain rfl : { outline with responses } = op := Except.ok.inj hop
  obtain rfl : path = g.path e := hpath
  have hrun : (g.responses e).run (k.register e.classInfo) = (.ok responses, k') := hresponses
  have houtline' : g.outline e method = .ok outline := houtline
  constructor
  · simp only [resolve, he, operation, Route.route_of_endpoint? he, hmethod, houtline', hrun]
    cases g.adjust { outline with responses } e <;> rfl
  · obtain ⟨description, -, rfl⟩ := (outline_eq_ok_iff g e method).mp houtline'
    exact List.getLast?_concat

/-- **The last tag of an operation is the short name of its class without the suffix** exactly if the
word for controllers does not stand in the rest of the short name, and the separator in front of the
short name is the one of the class. The operation is the one that the host is given for the last
change. -/
theorem resolve_tag_iff {qualifier stem : String} (he : r.endpoint? = some e)
    (hname : e.classInfo.HasStem qualifier stem)
    (h : g.withoutAdjustment.resolve r k = (.ok (some (path, op)), k')) :
    g.resolve r k = ((g.adjust op e).map fun op' => some (path, op'), k') ∧
      (op.tags.getLast? = some stem ↔
        ¬ClassInfo.IsMixed qualifier ∧ ¬"Controller".toList <:+: stem.toList) := by
  obtain ⟨hadjust, htag⟩ := resolve_of_withoutAdjustment he h
  refine ⟨hadjust, ?_⟩
  rw [htag, Option.some_inj]
  exact ClassInfo.tag_eq_iff hname

/-- A documented class. -/
def shopClass (name : String) : ClassInfo where
  name := name
  doc := some { tags := ["shop,orders"] }

/-- A route to a method of a class. -/
def routeTo (c : ClassInfo) : Route where
  methods := ["GET"]
  uri := "orders"
  handler := some { classInfo := some c, method := some "index" }

/-- A generator whose host drops the tags of every operation. -/
def untagging : Generator where
  adjust op _ := .ok { op with tags := [] }

/-- A class in a namespace with backslashes is the last tag without its suffix, until the host drops
all tags. -/
theorem orderController_tag :
    ∃ path op k',
      untagging.withoutAdjustment.resolve (routeTo (shopClass "App\\Http\\OrderController")) {} =
        (.ok (some (path, op)), k') ∧
      untagging.resolve (routeTo (shopClass "App\\Http\\OrderController")) {} =
        (.ok (some (path, { op with tags := [] })), k') ∧
      op.tags.getLast? = some "Order" := by
  have hname : (shopClass "App\\Http\\OrderController").HasStem "App\\Http\\" "Order" :=
    ⟨.scope "App\\Http" (Or.inr rfl), by decide, by decide, Or.inl rfl⟩
  have h := resolve_unhooked (g := untagging.withoutAdjustment) ⟨rfl, rfl, rfl⟩
    (routeTo (shopClass "App\\Http\\OrderController")) {}
  obtain ⟨hadjust, htag⟩ := resolve_tag_iff rfl hname h
  exact ⟨_, _, _, h, hadjust, htag.mpr ⟨fun hmixed => absurd hmixed.2 (by decide), by decide⟩⟩

/-- **The word in front of a name is removed with its suffix**, so the last tag is not the short name
without the suffix. -/
theorem auditController_tag :
    (shopClass "App.ControllerAuditController").HasStem "App." "ControllerAudit" ∧
      ∃ path op k',
        untagging.withoutAdjustment.resolve (routeTo (shopClass "App.ControllerAuditController")) {} =
          (.ok (some (path, op)), k') ∧
        op.tags.getLast? = some "Audit" := by
  have h := resolve_unhooked (g := untagging.withoutAdjustment) ⟨rfl, rfl, rfl⟩
    (routeTo (shopClass "App.ControllerAuditController")) {}
  refine ⟨⟨.scope "App" (Or.inl rfl), by decide, by decide, Or.inl rfl⟩, _, _, _, h, ?_⟩
  have htag : (shopClass "App.ControllerAuditController").tag = "Audit" := by decide +kernel
  rw [(resolve_of_withoutAdjustment rfl h).2]
  exact congrArg some htag

end Generator

end RouteAtlas
