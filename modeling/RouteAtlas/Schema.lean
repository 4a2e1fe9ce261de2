/-
Schemas: what a parameter, a part of a body or a component may hold.

* `Kind`: the kinds that a rule or a declared type can ask for, with their words.
* `Schema`: the variants. Every variant has modifiers; only numbers have limits, only objects have
  properties, and a reference has a target.
* `Schema.make`: the schema of a kind without further conditions.
* `Properties.add`: a property of an object, in the place of the one that its name has; a name that
  was once required stays so.
* `Schema.tree`: a schema as a value. Whatever says nothing is left out.
-/
import RouteAtlas.Failure
import RouteAtlas.Value

namespace RouteAtlas

/-- A kind of schema. -/
inductive Kind
  | string
  | integer
  | number
  | boolean
  | object
  deriving DecidableEq, Repr

namespace Kind

/-- The word for a kind. -/
def word : Kind → String
  | string => "string"
  | integer => "integer"
  | number => "number"
  | boolean => "boolean"
  | object => "object"

/-- The kind that a word names. -/
def ofWord? : String → Option Kind
  | "string" => some string
  | "integer" => some integer
  | "number" => some number
  | "boolean" => some boolean
  | "object" => some object
  | _ => none

/-- The kind that a word names; any other word is refused. -/
def ofWord (s : String) : Except Failure Kind :=
  match ofWord? s with
  | some kind => .ok kind
  | none => .error (.unknownKind s)

/-- A word names a kind exactly if it is the word for it. -/
theorem ofWord?_eq_some_iff {s : String} {k : Kind} : ofWord? s = some k ↔ s = k.word := by
  constructor
  · intro h
    unfold ofWord? at h
    split at h <;> cases h <;> rfl
  · rintro rfl
    cases k <;> rfl

end Kind

/-- What every schema can say: that null is allowed, and the values to choose from. -/
structure Modifiers where
  nullable : Bool := false
  choices : List Value := []
  deriving Inhabited

/-- A limit of a number, as it was given. -/
inductive Limit
  | whole (n : Int)
  | real (x : Binary64)
  deriving DecidableEq, Repr

/-- A limit as a value. -/
def Limit.tree : Limit → Value
  | whole n => .int n
  | real x => .float x

/-- A schema. -/
inductive Schema
  /-- A schema that asks for no kind. -/
  | bare (modifiers : Modifiers)
  | string (modifiers : Modifiers)
  | boolean (modifiers : Modifiers)
  /-- A number, perhaps a whole one. -/
  | numeric (modifiers : Modifiers) (isWhole : Bool) (minimum maximum : Option Limit)
  /-- An object with its properties and the names of those that it must have. -/
  | object (modifiers : Modifiers) (properties : List (String × Schema)) (required : List String)
  /-- The schema that is registered elsewhere. -/
  | reference (modifiers : Modifiers) (target : String)
  deriving Inhabited

/-- The properties of an object, and the names of those that it must have. -/
structure Properties where
  properties : Listing Schema := []
  required : List String := []

namespace Properties

/-- A property. Its name is required from now on if this is asked for. -/
def add (p : Properties) (name : String) (schema : Schema) (isRequired : Bool) : Properties :=
  ⟨p.properties.put name schema,
    if isRequired && !p.required.contains name then p.required ++ [name] else p.required⟩

/-- The object with these properties. -/
def schema (p : Properties) (modifiers : Modifiers) : Schema :=
  .object modifiers p.properties p.required

end Properties

namespace Schema

/-- The schema of a kind without further conditions. -/
def make : Kind → Schema
  | .string => string {}
  | .integer => numeric {} true none none
  | .number => numeric {} false none none
  | .boolean => boolean {}
  | .object => object {} [] []

/-- The kind of a schema that asks for one. -/
def kind? : Schema → Option Kind
  | bare _ | reference _ _ => none
  | string _ => some .string
  | boolean _ => some .boolean
  | numeric _ isWhole _ _ => some (if isWhole then .integer else .number)
  | object _ _ _ => some .object

/-- The modifiers of a schema. -/
def modifiers : Schema → Modifiers
  | bare m | string m | boolean m | numeric m _ _ _ | object m _ _ | reference m _ => m

/-- The schema with its modifiers changed. -/
def modify (f : Modifiers → Modifiers) : Schema → Schema
  | bare m => bare (f m)
  | string m => string (f m)
  | boolean m => boolean (f m)
  | numeric m isWhole minimum maximum => numeric (f m) isWhole minimum maximum
  | object m properties required => object (f m) properties required
  | reference m target => reference (f m) target

/-- The schema that allows null, or no longer allows it. -/
def setNullable (nullable : Bool) : Schema → Schema :=
  modify fun m => { m with nullable }

/-- The schema with values to choose from. -/
def setChoices (choices : List Value) : Schema → Schema :=
  modify fun m => { m with choices }

/-- Whether a schema can have limits. -/
def isNumeric : Schema → Bool
  | numeric _ _ _ _ => true
  | _ => false

/-- The schema with a least value; only numbers can have one. -/
def setMinimum? (limit : Limit) : Schema → Option Schema
  | numeric m isWhole _ maximum => some (numeric m isWhole (some limit) maximum)
  | _ => none

/-- The schema with a greatest value; only numbers can have one. -/
def setMaximum? (limit : Limit) : Schema → Option Schema
  | numeric m isWhole minimum _ => some (numeric m isWhole minimum (some limit))
  | _ => none

/-- The schema with a property; only objects can have one. -/
def addProperty? (s : Schema) (name : String) (property : Schema) (isRequired : Bool) :
    Option Schema :=
  match s with
  | object m properties required =>
    some ((Properties.add ⟨properties, required⟩ name property isRequired).schema m)
  | _ => none

/-! ### Schemas as values -/

/-- The part of a tree that names the kind. -/
def kindTree (kind : Option Kind) : Listing Value :=
  match kind with
  | some kind => [("type", .text kind.word)]
  | none => []

/-- The part of a tree that says that null is allowed. -/
def nullableTree (m : Modifiers) : Listing Value :=
  if m.nullable then [("nullable", .bool true)] else []

/-- The part of a tree that lists the values to choose from. -/
def choicesTree (m : Modifiers) : Listing Value :=
  if m.choices.isEmpty then [] else [("enum", .list m.choices)]

/-- The part of a tree that holds a limit. -/
def limitTree (name : String) : Option Limit → Listing Value
  | some limit => [(name, limit.tree)]
  | none => []

/-- The part of a tree that all variants but references have. -/
def commonTree (s : Schema) : Listing Value :=
  kindTree s.kind? ++ nullableTree s.modifiers ++ choicesTree s.modifiers

mutual

/-- A schema as a value. -/
def tree : Schema → Value
  | bare m => .record (commonTree (bare m))
  | string m => .record (commonTree (string m))
  | boolean m => .record (commonTree (boolean m))
  | numeric m isWhole minimum maximum =>
    .record (commonTree (numeric m isWhole minimum maximum)
      ++ limitTree "minimum" minimum ++ limitTree "maximum" maximum)
  | object m properties required =>
    .record (commonTree (object m properties required)
      ++ (if properties.isEmpty then [] else [("properties", .record (trees properties))])
      ++ if required.isEmpty then [] else [("required", .texts required)])
  | reference m target => .record (("$ref", .text target) :: nullableTree m)

/-- The schemas of a listing as values. -/
def trees : List (String × Schema) → List (String × Value)
  | [] => []
  | (name, schema) :: rest => (name, schema.tree) :: trees rest

end

/-- The values of a listing of schemas, one by one. -/
theorem trees_eq_map (schemas : List (String × Schema)) :
    trees schemas = schemas.map fun entry => (entry.1, entry.2.tree) := by
  induction schemas with
  | nil => rfl
  | cons entry rest ih => rw [trees, ih, List.map_cons]

end Schema

end RouteAtlas
