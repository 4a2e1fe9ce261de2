/-
Blank characters, and texts without the blanks around them.

* `isSpace`: white space.
* `isBlank`: white space and the four information separators.
* `trim`, `trimLeft`, `trimRight`: a text without the characters of a class around it.
* `trimLeft_eq_iff`, `trim_eq_iff`: what is left is what stands between characters of the class and
  neither starts nor ends with one.
-/
import RouteAtlas.Text.Ranges

namespace RouteAtlas.Text

/-- White space. -/
def spaceRanges : List (Nat × Nat) := [
  (0x9, 0xD), (0x20, 0x20), (0x85, 0x85), (0xA0, 0xA0), (0x1680, 0x1680), (0x2000, 0x200A),
  (0x2028, 0x2029), (0x202F, 0x202F), (0x205F, 0x205F), (0x3000, 0x3000)]

/-- A character of white space, in any script. -/
def isSpace (c : Char) : Bool :=
  inRanges spaceRanges c

/-- White space or one of the four information separators. -/
def isBlank (c : Char) : Bool :=
  isSpace c || (0x1C ≤ c.toNat && c.toNat ≤ 0x1F)

/-- A text without the leading characters of a class. -/
def trimLeft (p : Char → Bool) (cs : List Char) : List Char :=
  cs.dropWhile p

/-- A text without the trailing characters of a class. -/
def trimRight (p : Char → Bool) (cs : List Char) : List Char :=
  (cs.reverse.dropWhile p).reverse

/-- A text without the leading and the trailing characters of a class. -/
def trim (p : Char → Bool) (cs : List Char) : List Char :=
  trimRight p (trimLeft p cs)

/-! ### What is left -/

section Trim

variable {p : Char → Bool} {cs rest : List Char} {c : Char}

/-- The class of one character has none that stands at an end exactly if this character does not
stand there. -/
theorem forall_beq_eq_false_iff {found : Option Char} :
    (∀ d ∈ found, (d == c) = false) ↔ found ≠ some c := by
  cases found <;> simp

/-- What is left behind the leading characters of a class. -/
theorem trimLeft_eq_iff (h : ∀ c ∈ rest.head?, p c = false) :
    trimLeft p cs = rest ↔ ∃ before, (∀ c ∈ before, p c = true) ∧ cs = before ++ rest := by
  constructor
  · rintro rfl
    exact ⟨cs.takeWhile p, List.all_eq_true.1 List.all_takeWhile,
      List.takeWhile_append_dropWhile.symm⟩
  · rintro ⟨before, hbefore, rfl⟩
    have hrest : rest.dropWhile p = rest := by
      cases rest with
      | nil => rfl
      | cons c tail => exact List.dropWhile_cons_of_neg (by simp [h c rfl])
    rw [trimLeft, List.dropWhile_append_of_pos hbefore, hrest]

/-- What is left in front of the trailing characters of a class. -/
theorem trimRight_eq_iff (h : ∀ c ∈ rest.getLast?, p c = false) :
    trimRight p cs = rest ↔ ∃ after, (∀ c ∈ after, p c = true) ∧ cs = rest ++ after := by
  have hback : trimRight p cs = rest ↔ trimLeft p cs.reverse = rest.reverse := by
    rw [trimRight, ← trimLeft, List.reverse_eq_iff]
  rw [hback, trimLeft_eq_iff (by rwa [List.head?_reverse])]
  constructor
  · rintro ⟨before, hbefore, hcs⟩
    refine ⟨before.reverse, by simpa using hbefore, ?_⟩
    rw [← List.reverse_reverse cs, hcs, List.reverse_append, List.reverse_reverse]
  · rintro ⟨after, hafter, rfl⟩
    exact ⟨after.reverse, by simpa using hafter, List.reverse_append⟩

/-- What is left does not start with a character of the class. -/
theorem not_of_mem_head?_trimLeft (h : c ∈ (trimLeft p cs).head?) : p c = false := by
  have hnot := List.head?_dropWhile_not p cs
  rw [← trimLeft, h] at hnot
  exact hnot

/-- What is left does not end with a character of the class. -/
theorem not_of_mem_getLast?_trimRight (h : c ∈ (trimRight p cs).getLast?) : p c = false := by
  rw [trimRight, List.getLast?_reverse] at h
  exact not_of_mem_head?_trimLeft h

/-- What is left between the characters of a class does not start with one. -/
theorem not_of_mem_head?_trim (h : c ∈ (trim p cs).head?) : p c = false := by
  have hlast : ∀ d ∈ (trim p cs).getLast?, p d = false := fun _ =>
    not_of_mem_getLast?_trimRight
  obtain ⟨after, -, hleft⟩ := (trimRight_eq_iff hlast).1 rfl
  have hfront : c ∈ (trimLeft p cs).head? := by
    rw [hleft, List.head?_append, h]
    rfl
  exact not_of_mem_head?_trimLeft hfront

/-- A text is trimmed to what stands between characters of the class. -/
theorem trim_eq_iff (hhead : ∀ c ∈ rest.head?, p c = false)
    (hlast : ∀ c ∈ rest.getLast?, p c = false) :
    trim p cs = rest ↔ ∃ before after, (∀ c ∈ before, p c = true) ∧ (∀ c ∈ after, p c = true) ∧
      cs = before ++ (rest ++ after) := by
  constructor
  · intro h
    obtain ⟨after, hafter, hleft⟩ := (trimRight_eq_iff hlast).1 h
    have hfront : ∀ c ∈ (trimLeft p cs).head?, p c = false := fun _ => not_of_mem_head?_trimLeft
    obtain ⟨before, hbefore, hcs⟩ := (trimLeft_eq_iff hfront).1 rfl
    exact ⟨before, after, hbefore, hafter, by rw [← hleft, ← hcs]⟩
  · rintro ⟨before, after, hbefore, hafter, rfl⟩
    cases rest with
    | nil =>
      -- nothing is left, so that nothing divides what stands around it
      have hall : ∀ c ∈ before ++ after, p c = true := fun c hc =>
        (List.mem_append.1 hc).elim (hbefore c) (hafter c)
      have hleft : trimLeft p (before ++ after) = [] :=
        (trimLeft_eq_iff hhead).2 ⟨_, hall, (List.append_nil _).symm⟩
      rw [trim, List.nil_append, hleft]
      rfl
    | cons c tail =>
      have hfront : ∀ d ∈ (c :: tail ++ after).head?, p d = false := hhead
      have hleft : trimLeft p (before ++ (c :: tail ++ after)) = c :: tail ++ after :=
        (trimLeft_eq_iff hfront).2 ⟨before, hbefore, rfl⟩
      rw [trim, hleft]
      exact (trimRight_eq_iff hlast).2 ⟨after, hafter, rfl⟩

end Trim

end RouteAtlas.Text
