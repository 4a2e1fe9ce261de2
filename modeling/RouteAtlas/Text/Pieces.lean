/-
Cutting a text into pieces and replacing words in it.

* `splitWhere`: the pieces between the characters of a class; `splitWhere_ne_nil`: there is always
  one piece.
* `segments`: the pieces that are not empty.
* `cutFirst?`, `cutLast?`: the text before and after the first or the last occurrence of a
  character.
* `cutPrefix?`: what follows a given beginning.
* `contains`, `contains_eq_true_iff`: whether a word occurs.
* `replaceAll`: each occurrence of a word, from the left and without overlaps, becomes another.
-/
namespace RouteAtlas.Text

/-- The pieces of a text between the characters of a class: always one more than there are such
characters. -/
def splitWhere (p : Char → Bool) : List Char → List (List Char)
  | [] => [[]]
  | c :: rest =>
    if p c then
      [] :: splitWhere p rest
    else
      match splitWhere p rest with
      | [] => [[c]]
      | piece :: pieces => (c :: piece) :: pieces

/-- The pieces of a text between the occurrences of one character. -/
def splitOn (sep : Char) (cs : List Char) : List (List Char) :=
  splitWhere (· == sep) cs

/-- The pieces that are not empty. -/
def segments (p : Char → Bool) (cs : List Char) : List (List Char) :=
  (splitWhere p cs).filter fun piece => !piece.isEmpty

/-- The texts before and after the first occurrence of a character. -/
def cutFirst? (sep : Char) (cs : List Char) : Option (List Char × List Char) :=
  match cs.dropWhile (· != sep) with
  | [] => none
  | _ :: after => some (cs.takeWhile (· != sep), after)

/-- The texts before and after the last occurrence of a character. -/
def cutLast? (sep : Char) (cs : List Char) : Option (List Char × List Char) :=
  (cutFirst? sep cs.reverse).map fun cut => (cut.2.reverse, cut.1.reverse)

/-- What follows a given beginning. -/
def cutPrefix? : (start cs : List Char) → Option (List Char)
  | [], cs => some cs
  | _ :: _, [] => none
  | s :: start, c :: cs => if s = c then cutPrefix? start cs else none

/-- Whether a word occurs in a text. -/
def contains (word : List Char) : List Char → Bool
  | [] => word.isEmpty
  | c :: rest => word.isPrefixOf (c :: rest) || contains word rest

/-- Each occurrence of the non-empty word `old`, from the left and without overlaps, becomes
`new`. -/
def replaceAll (old new : List Char) : List Char → List Char
  | [] => []
  | c :: rest =>
    if old.isPrefixOf (c :: rest) then
      new ++ replaceAll old new (rest.drop (old.length - 1))
    else
      c :: replaceAll old new rest
termination_by cs => cs.length
decreasing_by all_goals (simp only [List.length_drop, List.length_cons]; omega)

/-- A text has at least one piece. -/
theorem splitWhere_ne_nil (p : Char → Bool) (cs : List Char) : splitWhere p cs ≠ [] := by
  cases cs with
  | nil => simp [splitWhere]
  | cons c rest =>
    unfold splitWhere
    split
    · simp
    · split <;> simp

/-- A piece holds no separator. -/
theorem not_mem_of_mem_splitWhere {p : Char → Bool} {cs piece : List Char} {c : Char}
    (hp : p c = true) (h : piece ∈ splitWhere p cs) : c ∉ piece := by
  induction cs generalizing piece with
  | nil =>
    rw [splitWhere, List.mem_singleton] at h
    simp [h]
  | cons d rest ih =>
    rw [splitWhere] at h
    split at h
    · rcases List.mem_cons.1 h with rfl | h
      · simp
      · exact ih h
    · next hd =>
      have hcd : c ≠ d := by
        rintro rfl
        exact hd hp
      split at h
      · rw [List.mem_singleton.1 h, List.mem_singleton]
        exact hcd
      · next first others hrest =>
        rcases List.mem_cons.1 h with rfl | h
        · rw [List.mem_cons, not_or]
          exact ⟨hcd, ih (by simp [hrest])⟩
        · exact ih (by simp [hrest, h])

/-- A word occurs exactly in the texts of which it is a part. -/
theorem contains_eq_true_iff {word cs : List Char} : contains word cs = true ↔ word <:+: cs := by
  induction cs with
  | nil => rw [contains, List.isEmpty_iff, List.infix_nil]
  | cons c rest ih =>
    rw [contains, Bool.or_eq_true, List.isPrefixOf_iff_prefix, ih, List.infix_cons_iff]

/-- A beginning is cut off exactly from the texts that start with it. -/
theorem cutPrefix?_eq_some_iff {start cs rest : List Char} :
    cutPrefix? start cs = some rest ↔ cs = start ++ rest := by
  induction start generalizing cs with
  | nil => simp [cutPrefix?]
  | cons s start ih =>
    cases cs with
    | nil => simp [cutPrefix?]
    | cons c cs =>
      rw [cutPrefix?]
      split
      · next h => simp [h, ih]
      · next h =>
        simp only [reduceCtorEq, List.cons_append, List.cons.injEq, false_iff, not_and]
        exact fun hc => absurd hc.symm h

end RouteAtlas.Text
