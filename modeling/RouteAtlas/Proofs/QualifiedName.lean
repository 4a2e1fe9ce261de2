/-
The normal form of a name in namespaces.

A name is read as the row of its segments, and written again with single dots between them. Both
directions fit: the segments of a written name are those from which it was written.

* `Text.cutFirst?_of_append`, `Text.cutLast?_of_append`: a text is cut at the separator with none on
  that side of it; `Text.exists_last_of_mem`: there is a last separator if there is any.
* `Text.segments_append`: a separator ends a segment, whatever stands around it.
* `Text.splitWhere_intercalate`, `Text.splitOn_intercalate`, `Text.segments_intercalate`: texts without
  separators are the pieces of the text that has one separator between them, and the segments if
  none of them is empty.
* `Text.segments_append_of_forall`, `Text.segments_dropWhile`, `Text.segments_of_forall₂`: separators
  in front of a text, and other separators in it, leave the segments.
* `QualifiedName.segments_dotted`: **the normal form keeps the segments**.
* `QualifiedName.dotted_eq_iff`, `QualifiedName.dotted_dotted`: names have one normal form exactly if
  they have the same segments, and a normal form is its own.
-/
import Mathlib.Data.List.Forall2
import Mathlib.Data.List.TakeWhile
import RouteAtlas.QualifiedName

namespace RouteAtlas

namespace Text

/-! ### Cutting a text at one separator -/

section Cutting

variable {sep : Char} {cs first rest : List Char}

/-- Up to its first separator a text is what stands in front of it. -/
lemma takeWhile_of_append (h : sep ∉ first) :
    (first ++ sep :: rest).takeWhile (· != sep) = first := by
  have hall : ∀ d ∈ first, (d != sep) = true := fun d hd =>
    bne_iff_ne.mpr fun heq => h (heq ▸ hd)
  rw [List.takeWhile_append_of_pos hall]
  simp

/-- From its first separator on a text goes on with what stands behind it. -/
lemma dropWhile_of_append (h : sep ∉ first) :
    (first ++ sep :: rest).dropWhile (· != sep) = sep :: rest := by
  have hall : ∀ d ∈ first, (d != sep) = true := fun d hd =>
    bne_iff_ne.mpr fun heq => h (heq ▸ hd)
  rw [List.dropWhile_append_of_pos hall]
  simp

/-- **A text is cut at its first separator.** -/
lemma cutFirst?_of_append (h : sep ∉ first) :
    cutFirst? sep (first ++ sep :: rest) = some (first, rest) := by
  rw [cutFirst?, dropWhile_of_append h, takeWhile_of_append h]

/-- **A text is cut from behind at its last separator.** -/
lemma cutLast?_of_append (h : sep ∉ rest) :
    cutLast? sep (first ++ sep :: rest) = some (first, rest) := by
  have hreverse : (first ++ sep :: rest).reverse = rest.reverse ++ sep :: first.reverse := by simp
  rw [cutLast?, hreverse, cutFirst?_of_append (by simpa using h)]
  simp

/-- **A text with a separator has a last one.** -/
lemma exists_last_of_mem (h : sep ∈ cs) : ∃ first rest, cs = first ++ sep :: rest ∧ sep ∉ rest := by
  obtain ⟨rest, first, hreverse, hrest⟩ := List.eq_append_cons_of_mem (List.mem_reverse.mpr h)
  refine ⟨first.reverse, rest.reverse, ?_, by simpa using hrest⟩
  rw [← List.reverse_reverse cs, hreverse]
  simp

/-- A text without a separator is not cut. -/
lemma cutLast?_eq_none (h : sep ∉ cs) : cutLast? sep cs = none := by
  have hdrop : cs.reverse.dropWhile (· != sep) = [] := by
    refine List.dropWhile_eq_nil_iff.mpr fun c hc => ?_
    have hne : c ≠ sep := fun hsep => h (hsep ▸ List.mem_reverse.mp hc)
    simp [hne]
  rw [cutLast?, cutFirst?, hdrop]
  rfl

end Cutting

/-! ### Pieces and segments -/

variable {p : Char → Bool} {c : Char}

/-- A separator ends a piece. -/
lemma splitWhere_append (hc : p c = true) (before after : List Char) :
    splitWhere p (before ++ c :: after) = splitWhere p before ++ splitWhere p after := by
  induction before with
  | nil =>
      have hnil : splitWhere p [] = [[]] := rfl
      rw [List.nil_append, hnil, splitWhere, if_pos hc]
      rfl
  | cons d before ih =>
      rw [List.cons_append, splitWhere, splitWhere, ih]
      by_cases hd : p d = true
      · rw [if_pos hd, if_pos hd]
        rfl
      · rw [if_neg hd, if_neg hd]
        cases hpieces : splitWhere p before with
        | nil => exact absurd hpieces (splitWhere_ne_nil p before)
        | cons piece pieces => rfl

/-- A text without separators is one piece. -/
lemma splitWhere_of_forall {cs : List Char} (h : ∀ d ∈ cs, p d = false) :
    splitWhere p cs = [cs] := by
  induction cs with
  | nil => rfl
  | cons d rest ih =>
      have hrest := ih fun e he => h e (List.mem_cons_of_mem _ he)
      rw [splitWhere, if_neg (by simp [h d List.mem_cons_self]), hrest]

/-- **A separator ends a segment.** -/
lemma segments_append (hc : p c = true) (before after : List Char) :
    segments p (before ++ c :: after) = segments p before ++ segments p after := by
  rw [segments, splitWhere_append hc, List.filter_append]
  rfl

/-- A text without separators that says something is one segment. -/
lemma segments_of_forall {cs : List Char} (hne : cs ≠ []) (h : ∀ d ∈ cs, p d = false) :
    segments p cs = [cs] := by
  rw [segments, splitWhere_of_forall h]
  simp [hne]

/-- A segment says something and has no separator. -/
lemma of_mem_segments {cs segment : List Char} (h : segment ∈ segments p cs) :
    segment ≠ [] ∧ ∀ d ∈ segment, p d = false := by
  obtain ⟨hpiece, hne⟩ := List.mem_filter.mp h
  refine ⟨by simpa using hne, fun d hd => ?_⟩
  cases hp : p d with
  | false => rfl
  | true => exact absurd hd (not_mem_of_mem_splitWhere hp hpiece)

/-- **Texts without separators are the pieces of the text that has a separator between them**, if
there are any. -/
lemma splitWhere_intercalate (hc : p c = true) {pieces : List (List Char)} (hne : pieces ≠ [])
    (h : ∀ piece ∈ pieces, ∀ d ∈ piece, p d = false) :
    splitWhere p ([c].intercalate pieces) = pieces := by
  induction pieces with
  | nil => exact absurd rfl hne
  | cons piece rest ih =>
      have hpiece := splitWhere_of_forall (h piece List.mem_cons_self)
      cases rest with
      | nil => rw [List.intercalate_singleton, hpiece]
      | cons second others =>
          have hrest := ih (List.cons_ne_nil _ _) fun other hother =>
            h other (List.mem_cons_of_mem _ hother)
          rw [List.intercalate_cons_cons, List.append_assoc, List.singleton_append,
            splitWhere_append hc, hpiece, hrest]
          rfl

/-- **Words without a separator are the pieces of the text that has it between them**, if there are
any. -/
lemma splitOn_intercalate {joint : String} (hjoint : joint.toList = [c]) {ws : List String}
    (hne : ws ≠ []) (h : ∀ w ∈ ws, c ∉ w.toList) :
    splitOn c (joint.intercalate ws).toList = ws.map String.toList := by
  have hpieces : ∀ piece ∈ ws.map String.toList, ∀ d ∈ piece, (d == c) = false := by
    intro piece hpiece d hd
    obtain ⟨w, hw, rfl⟩ := List.mem_map.mp hpiece
    exact beq_false_of_ne (ne_of_mem_of_not_mem hd (h w hw))
  rw [splitOn, String.toList_intercalate, hjoint]
  exact splitWhere_intercalate (p := (· == c)) (beq_self_eq_true c)
    (mt List.map_eq_nil_iff.mp hne) hpieces

/-- **Texts that can be segments are those of the text that has a separator between them.** -/
lemma segments_intercalate (hc : p c = true) {pieces : List (List Char)}
    (h : ∀ piece ∈ pieces, piece ≠ [] ∧ ∀ d ∈ piece, p d = false) :
    segments p ([c].intercalate pieces) = pieces := by
  cases pieces with
  | nil => rfl
  | cons piece rest =>
      rw [segments, splitWhere_intercalate hc (List.cons_ne_nil _ _) fun other hother =>
        (h other hother).2]
      refine List.filter_eq_self.mpr fun other hother => ?_
      simpa using (h other hother).1

/-- Separators in front of a text say nothing. -/
lemma segments_append_of_forall {before : List Char} (h : ∀ d ∈ before, p d = true)
    (cs : List Char) : segments p (before ++ cs) = segments p cs := by
  induction before with
  | nil => rfl
  | cons d rest ih =>
      have hd : segments p ([] ++ d :: (rest ++ cs)) = segments p [] ++ segments p (rest ++ cs) :=
        segments_append (h d List.mem_cons_self) [] _
      rw [List.cons_append, ← List.nil_append (d :: (rest ++ cs)), hd,
        ih fun e he => h e (List.mem_cons_of_mem _ he)]
      rfl

/-- Separators in front say nothing. -/
lemma segments_dropWhile {q : Char → Bool} (h : ∀ c, q c = true → p c = true)
    (cs : List Char) :
    segments p (cs.dropWhile q) = segments p cs := by
  calc segments p (cs.dropWhile q)
      = segments p (cs.takeWhile q ++ cs.dropWhile q) :=
        (segments_append_of_forall (fun c hc => h c (List.mem_takeWhile_imp hc)) _).symm
    _ = segments p cs := by rw [List.takeWhile_append_dropWhile]

/-- **Texts that differ in separators for separators have the same segments.** -/
lemma segments_of_forall₂ {cs ds : List Char}
    (h : List.Forall₂ (fun c d => d = c ∨ p c = true ∧ p d = true) cs ds) :
    segments p ds = segments p cs := by
  have hpieces : splitWhere p ds = splitWhere p cs := by
    induction h with
    | nil => rfl
    | @cons c d rest rest' hcd _ ih =>
        rw [splitWhere, splitWhere, ih]
        rcases hcd with rfl | ⟨hc, hd⟩
        · rfl
        · rw [if_pos hc, if_pos hd]
  rw [segments, segments, hpieces]

end Text

namespace QualifiedName

/-- A separator in front of a name says nothing. -/
lemma segments_singleton_append {sep : Char} (hsep : isSeparator sep = true) (name : String) :
    segments (String.singleton sep ++ name) = segments name := by
  have hfront : ∀ d ∈ [sep], isSeparator d = true := fun d hd => List.mem_singleton.mp hd ▸ hsep
  rw [segments, String.toList_append, String.toList_singleton,
    Text.segments_append_of_forall hfront]
  rfl

/-- **The normal form keeps the segments.** -/
theorem segments_dotted (name : String) : segments (dotted name) = segments name := by
  have htexts : (segments name).map String.toList = Text.segments isSeparator name.toList := by
    simp [segments, Function.comp_def]
  have hdots : (dotted name).toList =
      ['.'].intercalate (Text.segments isSeparator name.toList) := by
    rw [dotted, String.toList_intercalate, htexts]
    rfl
  rw [segments, hdots, Text.segments_intercalate (by decide) fun _ => Text.of_mem_segments]
  rfl

/-- **Names have one normal form exactly if they have the same segments.** -/
theorem dotted_eq_iff {name other : String} :
    dotted name = dotted other ↔ segments name = segments other := by
  constructor
  · intro h
    rw [← segments_dotted name, h, segments_dotted]
  · intro h
    rw [dotted, dotted, h]

/-- A normal form is its own. -/
theorem dotted_dotted (name : String) : dotted (dotted name) = dotted name :=
  dotted_eq_iff.mpr (segments_dotted name)

end QualifiedName

end RouteAtlas
