/-
Values: what a manifest, a settings file or a host hands over, and what a document is written as.

* `Value`: scalars, bytes, days and moments, lists, fixed rows, sets, mappings with keys of any
  kind, and the rule objects and rule functions of a host.
* `Value.typeName`: the word for the kind of a value in messages.
* `Value.shown?`: how a scalar or a row of a fixed length is shown inside a report.
* `Value.truthy`: whether a value counts as present; empty texts and collections, zero, `false`
  and the null value do not.
* `Value.sameKey`, `Value.insert`: a mapping has one entry per key, and numbers and truth values
  of one size are one key, as are two moments of one instant.
* `Value.record`, `Value.field?`: mappings whose keys are field names.
-/
import RouteAtlas.Calendar
import RouteAtlas.Listing
import RouteAtlas.Numeral.Shortest
import RouteAtlas.Text.Quoted

namespace RouteAtlas

/-- A value of a manifest, a settings file or a host. -/
inductive Value
  | null
  | bool (b : Bool)
  | int (n : Int)
  | float (x : Binary64)
  | text (s : String)
  | bytes (bs : List UInt8)
  | date (d : Day)
  | moment (m : Moment)
  | list (items : List Value)
  /-- A row of a fixed length. -/
  | tuple (items : List Value)
  /-- Values without order and without repetition, in the order of first entry. -/
  | set (items : List Value)
  | map (entries : List (Value × Value))
  /-- A rule object of a host, with the name of its class and its textual form if it has one. -/
  | ruleObject (className : String) (text : Option String)
  /-- A function of a host, known by name. -/
  | callable (name : String)
  /-- A collection that holds itself, where it is met again and not followed any further. -/
  | repeated
  deriving Inhabited

namespace Value

/-- The word for the kind of a value in messages. -/
def typeName : Value → String
  | null => "NoneType"
  | bool _ => "bool"
  | int _ => "int"
  | float _ => "float"
  | text _ => "str"
  | bytes _ => "bytes"
  | date _ => "date"
  | moment _ => "datetime"
  | list _ => "list"
  | tuple _ => "tuple"
  | set _ => "set"
  | map _ => "dict"
  | ruleObject className _ => className
  | callable _ => "function"
  | repeated => "list"

/-- The decimal digits of a whole number behind its sign, unless there are too many of them. -/
def wholeText? (n : Int) : Option String :=
  if NumeralFault.digitLimit < (toString n.natAbs).length then none else some (toString n)

/-- A row of a fixed length, from its parts as they are shown. -/
def shownTuple : List String → String
  | [item] => "(" ++ item ++ ",)"
  | items => "(" ++ ", ".intercalate items ++ ")"

mutual

/-- How a scalar or a row of a fixed length is shown, unless it holds a whole number with too many
digits; any other value is shown by the word for its kind. -/
def shown? : Value → Option String
  | null => some "None"
  | bool b => some (if b then "True" else "False")
  | int n => wholeText? n
  | float x => some (Shortest.text x)
  | text s => some (Text.quoted s)
  | bytes bs => some (Text.quotedBytes bs)
  | date d => some d.shown
  | moment m => some m.shown
  | tuple items => (shownAll? items).map shownTuple
  | list _ => some "list"
  | set _ => some "set"
  | map _ => some "dict"
  | ruleObject className _ => some className
  | callable _ => some "function"
  | repeated => some "list"

/-- How each value of a row is shown. -/
def shownAll? : List Value → Option (List String)
  | [] => some []
  | item :: rest =>
    match shown? item, shownAll? rest with
    | some first, some others => some (first :: others)
    | _, _ => none

end

/-- Whether a value counts as present. -/
def truthy : Value → Bool
  | null => false
  | bool b => b
  | int n => n != 0
  | float x => !x.isZero
  | text s => s != ""
  | bytes bs => !bs.isEmpty
  | list items => !items.isEmpty
  | tuple items => !items.isEmpty
  | set items => !items.isEmpty
  | map entries => !entries.isEmpty
  | date _ | moment _ | ruleObject _ _ | callable _ | repeated => true

/-- The integer that a number or a truth value is equal to. -/
def asInteger? : Value → Option Int
  | bool b => some (if b then 1 else 0)
  | int n => some n
  | float x => x.integer?
  | _ => none

/-- Whether two values are one key of a mapping. Of the values that stand for no number, the result
of an operation that has none is one key. -/
def sameKey (a b : Value) : Bool :=
  match a.asInteger?, b.asInteger? with
  | some n, some m => n == m
  | some _, none => false
  | none, some _ => false
  | none, none =>
    match a, b with
    | null, null => true
    | float x, float y => x.sameNumber y || (x == .invalid && y == .invalid)
    | text s, text t => s == t
    | bytes bs, bytes cs => bs == cs
    | date d, date e => d == e
    | moment m, moment n => m.same n
    | _, _ => false

/-- An entry of a mapping: in the place of the entry that its key has, else at the end. -/
def insert {α : Type} (key : Value) (value : α) : List (Value × α) → List (Value × α)
  | [] => [(key, value)]
  | entry :: rest =>
    if entry.1.sameKey key then (entry.1, value) :: rest else entry :: insert key value rest

/-- The mapping of a row of fields. -/
def record (fields : Listing Value) : Value :=
  map (fields.map fun field => (text field.1, field.2))

/-- The value of a field. -/
def field? (name : String) : List (Value × Value) → Option Value
  | [] => none
  | (text s, value) :: rest => if s = name then some value else field? name rest
  | _ :: rest => field? name rest

/-- The value of an optional text. -/
def ofText? (s : Option String) : Value :=
  (s.map text).getD null

/-- The set of a row of values: of equal values the first counts. -/
def ofMembers (items : List Value) : Value :=
  set ((items.foldl (fun entries item => insert item () entries) []).map (·.1))

/-- The value of a list of texts. -/
def texts (ss : List String) : Value :=
  list (ss.map text)

/-- A field of a record is found under its name. -/
theorem field?_record (fields : Listing Value) (name : String) :
    field? name (fields.map fun field => (text field.1, field.2)) = fields.get? name := by
  induction fields with
  | nil => rfl
  | cons field rest ih => simp [field?, Listing.get?, ih]

end Value

end RouteAtlas
