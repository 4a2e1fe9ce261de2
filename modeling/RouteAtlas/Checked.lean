/-
Checking values part by part.

* `Defect`: what is wrong with a part of a value, with the way to the part.
* `Checked`: an accepted result, or at least one defect. Parts that are checked side by side
  report all their defects, in the order of the parts.
* `Checked.under`: the defects of a part as defects of the whole.
* `Checked.all`: the items of a row, each under its index.
* `Checked.seq_eq_accepted_iff`, `Checked.under_eq_accepted_iff`: a whole is accepted exactly if
  its parts are.
-/
namespace RouteAtlas

/-- One step of the way from a value to a part of it. -/
inductive Step
  | field (name : String)
  | index (i : Nat)
  /-- The entry of a key that is a number. -/
  | number (n : Int)
  deriving DecidableEq, Repr

/-- What can be wrong with a part of a value. -/
inductive DefectKind
  | missing
  | notText
  /-- Bytes that are no text. -/
  | unreadableText
  | notList
  | notMapping
  | notRecord
  | notTruthValue
  | unreadableTruthValue
  | notWhole
  | unreadableWhole
  /-- A whole number that is too long, or a floating-point number that is too large. -/
  | oversizedWhole
  | fraction
  | notFinite
  | notAChoice
  | notCallable
  deriving DecidableEq, Repr

/-- The word for a defect in reports. -/
def DefectKind.word : DefectKind → String
  | missing => "missing"
  | notText => "string_type"
  | unreadableText => "string_unicode"
  | notList => "list_type"
  | notMapping => "dict_type"
  | notRecord => "model_type"
  | notTruthValue => "bool_type"
  | unreadableTruthValue => "bool_parsing"
  | notWhole => "int_type"
  | unreadableWhole => "int_parsing"
  | oversizedWhole => "int_parsing_size"
  | fraction => "int_from_float"
  | notFinite => "finite_number"
  | notAChoice => "enum"
  | notCallable => "callable_type"

/-- A defect and the way to the part that has it. -/
structure Defect where
  path : List Step
  kind : DefectKind
  deriving DecidableEq, Repr

/-- The same defect, one step further out. -/
def Defect.under (step : Step) (d : Defect) : Defect :=
  ⟨step :: d.path, d.kind⟩

/-- The result of checking a value: accepted, or rejected for at least one defect. -/
inductive Checked (α : Type)
  | accepted (value : α)
  | rejected (first : Defect) (more : List Defect)
  deriving Repr

namespace Checked

variable {α β : Type}

/-- Rejection of a value as a whole. -/
def reject (kind : DefectKind) : Checked α :=
  rejected ⟨[], kind⟩ []

/-- The defects, none if the value is accepted. -/
def defects : Checked α → List Defect
  | accepted _ => []
  | rejected first more => first :: more

/-- The accepted value, changed by a function. -/
def map (f : α → β) : Checked α → Checked β
  | accepted value => accepted (f value)
  | rejected first more => rejected first more

/-- Two parts side by side: the defects of the first part, then those of the second. -/
def seq (f : Checked (α → β)) (x : Checked α) : Checked β :=
  match f, x with
  | accepted f, accepted value => accepted (f value)
  | accepted _, rejected first more => rejected first more
  | rejected first more, x => rejected first (more ++ x.defects)

instance : Applicative Checked where
  map := map
  pure := accepted
  seq f x := seq f (x ())

/-- The defects of a part as defects of the whole. -/
def under (step : Step) : Checked α → Checked α
  | accepted value => accepted value
  | rejected first more => rejected (first.under step) (more.map (·.under step))

/-- The items of a row, each under its index; the first index is `start`. -/
def all (check : β → Checked α) (start : Nat) : List β → Checked (List α)
  | [] => accepted []
  | item :: rest =>
    seq (map List.cons ((check item).under (.index start))) (all check (start + 1) rest)

/-! ### When a whole is accepted -/

/-- Two parts side by side are accepted exactly if both are. -/
theorem seq_eq_accepted_iff {f : Checked (α → β)} {x : Checked α} {b : β} :
    seq f x = accepted b ↔ ∃ g a, f = accepted g ∧ x = accepted a ∧ g a = b := by
  cases f <;> cases x <;> simp [seq]

/-- A changed value is accepted exactly if the value is. -/
theorem map_eq_accepted_iff {f : α → β} {x : Checked α} {b : β} :
    map f x = accepted b ↔ ∃ a, x = accepted a ∧ f a = b := by
  cases x <;> simp [map]

/-- A part is accepted exactly if it is accepted within the whole. -/
theorem under_eq_accepted_iff {step : Step} {x : Checked α} {a : α} :
    x.under step = accepted a ↔ x = accepted a := by
  cases x <;> simp [under]

end Checked

end RouteAtlas
