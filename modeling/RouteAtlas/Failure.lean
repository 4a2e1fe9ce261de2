/-
Why a step of the work cannot be done.

* `Failure`: the causes. Some are found by the library itself; `Failure.raised` is what a function
  of a host reports, and `Failure.untold` is a report whose text the host fails to give.
* `Wording`: how reports on the defects of a value are worded, which is left open here.
* `Failure.text`: the text of a cause. Asking for it can fail, and then with a cause of its own.
* `Checked.orFail`: defects as a failure.
-/
import RouteAtlas.Value.Reading

namespace RouteAtlas

/-- A cause of failure. -/
inductive Failure
  /-- A route without a method has no operation. -/
  | noMethod (uri : String)
  /-- A name is used inside a class that was never registered. -/
  | unknownClass (name : String)
  /-- The rules of a source are no mapping but a value of the given kind. -/
  | rulesNotMapping (source given : String)
  /-- The argument of a rule such as `min:` is no finite number. -/
  | badBound (field rule argument : String)
  /-- Rules of the given kind have no fields. -/
  | noFields (given : String)
  /-- A word is not the name of a schema kind. -/
  | unknownKind (word : String)
  /-- A word is not the place of a parameter. -/
  | unknownLocation (word : String)
  /-- Nothing is entered under a name. -/
  | noEntry (name : String)
  /-- The route has no handler. -/
  | noHandler
  /-- The handler of the route belongs to no class. -/
  | noClass
  /-- A whole number has too many digits to be written. -/
  | tooLongToWrite
  /-- A value has defects as a record of the given name. -/
  | invalid (record : String) (given : Value) (first : Defect) (more : List Defect)
  /-- A function of a host reports a failure of a kind of its own. -/
  | raised (kind text : String)
  /-- A function of a host reports a failure whose text it fails to give, for the given cause. -/
  | untold (kind : String) (cause : Failure)

/-- How reports on the defects of a value are worded. -/
abbrev Wording := (record : String) → (given : Value) → (first : Defect) → (more : List Defect) →
  String

namespace Wording

/-- The number of defects and the word for the first one. -/
def brief : Wording := fun _ _ first more =>
  let count := more.length + 1
  s!"{count} validation error" ++ (if count = 1 then "" else "s") ++ " (" ++ first.kind.word ++ ")"

end Wording

namespace Failure

/-- The text of a cause, or the cause for which there is none. -/
def text (wording : Wording) : Failure → Except Failure String
  | noMethod uri => .ok s!"Route '{uri}' declares no HTTP method"
  | unknownClass name => .ok s!"Class '{name}' is not registered"
  | rulesNotMapping source given => .ok s!"Rules of {source} must be a mapping (got {given})"
  | badBound field rule argument =>
    .ok s!"Invalid {rule}{argument} rule on field '{field}': expected a finite number"
  | noFields given => .ok s!"'{given}' object has no attribute 'items'"
  | unknownKind word => .ok s!"{Text.quoted word} is not a valid SchemaKind"
  | unknownLocation word => .ok s!"{Text.quoted word} is not a valid ParameterLocation"
  | noEntry name => .ok (Text.quoted name)
  | noHandler | noClass => .ok ""
  | tooLongToWrite =>
    .ok (s!"Exceeds the limit ({NumeralFault.digitLimit} digits) for integer string conversion; "
      ++ "use sys.set_int_max_str_digits() to increase the limit")
  | invalid record given first more => .ok (wording record given first more)
  | raised _ text => .ok text
  | untold _ cause => .error cause

end Failure

namespace Checked

variable {α : Type}

/-- The accepted value, or the failure that the defects of a given value are. -/
def orFail (record : String) (given : Value) : Checked α → Except Failure α
  | accepted value => .ok value
  | rejected first more => .error (.invalid record given first more)

/-- Exactly an accepted value is no failure. -/
theorem orFail_eq_ok_iff {record : String} {given : Value} {x : Checked α} {a : α} :
    x.orFail record given = .ok a ↔ x = accepted a := by
  cases x <;> simp [orFail]

end Checked

end RouteAtlas
