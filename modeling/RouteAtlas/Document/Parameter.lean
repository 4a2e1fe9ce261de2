/-
Parameters of an operation.

* `Location`: where a parameter is passed; `Parameter.key`: its name and its place.
* `enter`: a parameter of a row, in the place of the one that has its key, else at the end.
* `keys_enter`, `nodup_keys_enter`: a parameter adds its key only if it is new, so keys that are
  distinct stay so.
* `Parameter.read`: a parameter by its fields, around a schema.
* `Parameter.tree`: a parameter as a value.
-/
import RouteAtlas.Schema
import RouteAtlas.Value.Reading

namespace RouteAtlas

/-- Where a parameter is passed. -/
inductive Location
  | path
  | query
  deriving DecidableEq, Repr

namespace Location

/-- The word for a place. -/
def word : Location → String
  | path => "path"
  | query => "query"

/-- The place that a word names. -/
def ofWord? : String → Option Location
  | "path" => some path
  | "query" => some query
  | _ => none

/-- The place that a word names; any other word is refused. -/
def ofWord (s : String) : Except Failure Location :=
  match ofWord? s with
  | some location => .ok location
  | none => .error (.unknownLocation s)

/-- A place, by its word. -/
def read : Value → Checked Location
  | .text s =>
    match ofWord? s with
    | some location => .accepted location
    | none => .reject .notAChoice
  | _ => .reject .notAChoice

end Location

/-- A parameter of an operation. -/
structure Parameter where
  name : String
  location : Location
  description : String := ""
  required : Bool := false
  schema : Schema := .make .string

namespace Parameter

/-- What tells the parameters of an operation apart. -/
def key (p : Parameter) : String × Location :=
  (p.name, p.location)

/-- A parameter as a value. -/
def tree (p : Parameter) : Value :=
  .record [("name", .text p.name), ("in", .text p.location.word),
    ("description", .text p.description), ("required", .bool p.required),
    ("schema", p.schema.tree)]

/-- A parameter with a given schema, by its other fields. -/
def read (schema : Schema) (fields : List (Value × Value)) : Checked Parameter :=
  (fun name location description required => ⟨name, location, description, required, schema⟩)
    <$> Value.required fields "name" Value.readText
    <*> Value.required fields "location" Location.read
    <*> Value.withDefault fields "description" Value.readText ""
    <*> Value.withDefault fields "required" Value.readTruth false

/-! ### Rows of parameters -/

/-- A parameter of a row: in the place of the first one that has its key, else at the end. -/
def enter (p : Parameter) : List Parameter → List Parameter
  | [] => [p]
  | q :: rest => if q.key = p.key then p :: rest else q :: enter p rest

/-- The parameters of a second row, each entered into the first. -/
def enterAll (old new : List Parameter) : List Parameter :=
  new.foldl (fun parameters p => p.enter parameters) old

/-- The parameter of a key. -/
def find? (name : String) (location : Location) (parameters : List Parameter) :
    Option Parameter :=
  parameters.find? fun p => p.key = (name, location)

/-- A parameter adds its key at the end if it is new, and else changes no key. -/
theorem keys_enter (p : Parameter) (parameters : List Parameter) :
    (p.enter parameters).map key =
      if p.key ∈ parameters.map key then parameters.map key
      else parameters.map key ++ [p.key] := by
  induction parameters with
  | nil => simp [enter]
  | cons q rest ih =>
    rw [enter]
    split
    · next h => simp [h]
    · next h =>
      have hne : p.key ≠ q.key := Ne.symm h
      rw [List.map_cons, ih]
      simp only [List.map_cons, List.mem_cons, hne, false_or]
      split <;> simp

/-- Entering a parameter keeps the keys distinct. -/
theorem nodup_keys_enter {parameters : List Parameter} (h : (parameters.map key).Nodup)
    (p : Parameter) : ((p.enter parameters).map key).Nodup := by
  rw [keys_enter]
  split
  · exact h
  · next hn =>
    rw [List.nodup_append]
    refine ⟨h, by simp, ?_⟩
    intro a ha b hb
    rw [List.mem_singleton] at hb
    exact fun hab => hn (hb ▸ hab ▸ ha)

/-- Entering a row of parameters keeps the keys distinct. -/
theorem nodup_keys_enterAll {old : List Parameter} (h : (old.map key).Nodup)
    (new : List Parameter) : ((enterAll old new).map key).Nodup := by
  induction new generalizing old with
  | nil => exact h
  | cons p rest ih => exact ih (nodup_keys_enter h p)

end Parameter

end RouteAtlas
