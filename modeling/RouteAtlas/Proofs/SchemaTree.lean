/-
Schemas and parameters read back from their trees.

A tree leaves out whatever says nothing: an absent limit, an empty list, null that is not allowed.
Nothing is lost by that, since what is not there is read as what it was, and zero is a limit like any
other. The one exception are values to choose from at a reference, which no tree mentions.

* `Schema.Traits`: what the fields of a tree say, entered field by field.
* `Schema.ofTree`, `Parameter.ofTree?`: a schema and a parameter by their trees.
* `Schema.PlainReferences`: no reference of a schema, at any depth, has values to choose from.
* `Schema.ofTree_tree`, `Parameter.ofTree?_tree`: **reading undoes writing**.
* `Parameter.tree_lossless`: **equal trees come from equal schemas and from equal parameters**.
-/
import Mathlib.Data.List.Basic
import RouteAtlas.Registry

namespace RouteAtlas

/-- A limit by its value. -/
def Limit.ofTree? : Value → Option Limit
  | .int n => some (.whole n)
  | .float x => some (.real x)
  | _ => none

/-- The texts of a list. -/
def Value.textsOf (items : List Value) : List String :=
  items.filterMap fun
    | .text s => some s
    | _ => none

/-- Texts are read as they were written. -/
lemma Value.textsOf_map_text (ss : List String) : textsOf (ss.map .text) = ss := by
  rw [textsOf, List.filterMap_map]
  exact List.filterMap_some

namespace Schema

/-! ### Reading -/

/-- What the fields of a tree say. -/
structure Traits where
  kind : Option Kind := none
  nullable : Bool := false
  choices : List Value := []
  minimum : Option Limit := none
  maximum : Option Limit := none
  properties : List (String × Schema) := []
  required : List String := []
  target : Option String := none

namespace Traits

/-- What is said with one more field. The properties are those that were read from its value, and
count only where properties stand. -/
def enter (t : Traits) (properties : List (String × Schema)) : Value → Value → Traits
  | .text "type", .text word => { t with kind := Kind.ofWord? word }
  | .text "nullable", .bool nullable => { t with nullable }
  | .text "enum", .list choices => { t with choices }
  | .text "minimum", value => { t with minimum := Limit.ofTree? value }
  | .text "maximum", value => { t with maximum := Limit.ofTree? value }
  | .text "properties", _ => { t with properties }
  | .text "required", .list names => { t with required := Value.textsOf names }
  | .text "$ref", .text target => { t with target }
  | _, _ => t

/-- The schema of which all this is said. -/
def schema (t : Traits) : Schema :=
  let m := ⟨t.nullable, t.choices⟩
  match t.target, t.kind with
  | some target, _ => .reference m target
  | none, none => .bare m
  | none, some .string => .string m
  | none, some .boolean => .boolean m
  | none, some .integer => .numeric m true t.minimum t.maximum
  | none, some .number => .numeric m false t.minimum t.maximum
  | none, some .object => .object m t.properties t.required

end Traits

mutual

/-- **The schema of a tree.** -/
def ofTree : Value → Schema
  | .map entries => (traitsOf entries).schema
  | _ => .bare {}

/-- The properties of a tree of properties. -/
def propertiesOf : Value → List (String × Schema)
  | .map entries => propertiesIn entries
  | _ => []

/-- What entries say. -/
def traitsOf : List (Value × Value) → Traits
  | [] => {}
  | (key, value) :: rest => (traitsOf rest).enter (propertiesOf value) key value

/-- The schemas of entries whose keys are texts. -/
def propertiesIn : List (Value × Value) → List (String × Schema)
  | [] => []
  | (.text name, value) :: rest => (name, ofTree value) :: propertiesIn rest
  | _ :: rest => propertiesIn rest

end

/-- **No reference of a schema has values to choose from**, at any depth. -/
inductive PlainReferences : Schema → Prop
  | bare (m : Modifiers) : PlainReferences (.bare m)
  | string (m : Modifiers) : PlainReferences (.string m)
  | boolean (m : Modifiers) : PlainReferences (.boolean m)
  | numeric (m : Modifiers) (isWhole : Bool) (minimum maximum : Option Limit) :
      PlainReferences (.numeric m isWhole minimum maximum)
  | object {m : Modifiers} {properties : List (String × Schema)} {required : List String} :
      (∀ entry ∈ properties, PlainReferences entry.2) →
      PlainReferences (.object m properties required)
  | reference (nullable : Bool) (target : String) :
      PlainReferences (.reference ⟨nullable, []⟩ target)

/-! ### The parts of a tree -/

namespace Traits

/-- What is said with the fields of a record in front. -/
def withFields (t : Traits) (fields : Listing Value) : Traits :=
  fields.foldr (fun field t => t.enter (propertiesOf field.2) (.text field.1) field.2) t

variable {t : Traits}

/-- Fields in front of others are entered after them. -/
lemma withFields_append (t : Traits) (fields others : Listing Value) :
    t.withFields (fields ++ others) = (t.withFields others).withFields fields :=
  List.foldr_append

/-- The part for the kind says the kind. -/
lemma withFields_kindTree (h : t.kind = none) (kind : Option Kind) :
    t.withFields (kindTree kind) = { t with kind } := by
  cases kind with
  | none =>
      cases t
      cases h
      rfl
  | some kind =>
      have hword : Kind.ofWord? kind.word = some kind := Kind.ofWord?_eq_some_iff.mpr rfl
      calc t.withFields (kindTree (some kind))
          = { t with kind := Kind.ofWord? kind.word } := rfl
        _ = { t with kind := some kind } := by rw [hword]

/-- The part for null says whether null is allowed. -/
lemma withFields_nullableTree (h : t.nullable = false) (m : Modifiers) :
    t.withFields (nullableTree m) = { t with nullable := m.nullable } := by
  rw [nullableTree]
  cases m.nullable with
  | false =>
      cases t
      cases h
      rfl
  | true => rfl

/-- The part for the choices says the choices. -/
lemma withFields_choicesTree (h : t.choices = []) (m : Modifiers) :
    t.withFields (choicesTree m) = { t with choices := m.choices } := by
  rw [choicesTree]
  cases m.choices with
  | nil =>
      cases t
      cases h
      rfl
  | cons first others => rfl

/-- The common part of a tree says the kind and the modifiers. -/
lemma withFields_commonTree (hkind : t.kind = none) (hnullable : t.nullable = false)
    (hchoices : t.choices = []) (s : Schema) :
    t.withFields (commonTree s) =
      { t with
        kind := s.kind?
        nullable := s.modifiers.nullable
        choices := s.modifiers.choices } := by
  rw [commonTree, withFields_append, withFields_append, withFields_choicesTree hchoices,
    withFields_nullableTree, withFields_kindTree]
  · exact hkind
  · exact hnullable

/-- The parts for the limits say the limits. -/
lemma withFields_limitTree (minimum maximum : Option Limit) :
    ({} : Traits).withFields (limitTree "minimum" minimum ++ limitTree "maximum" maximum) =
      { minimum, maximum } := by
  rcases minimum with _ | (_ | _) <;> rcases maximum with _ | (_ | _) <;> rfl

/-- The part for the names of properties that must be there says these. -/
lemma withFields_required (required : List String) :
    ({} : Traits).withFields
        (if required.isEmpty then [] else [("required", .texts required)]) = { required } := by
  cases required with
  | nil => rfl
  | cons first others =>
      calc ({} : Traits).withFields [("required", .texts (first :: others))]
          = { required := Value.textsOf ((first :: others).map .text) } := rfl
        _ = { required := first :: others } := by rw [Value.textsOf_map_text]

/-- The part for the properties says the properties, if each of them is read as it was written. -/
lemma withFields_properties (h : t.properties = []) {properties : List (String × Schema)}
    (hread : propertiesOf (.record (trees properties)) = properties) :
    t.withFields
        (if properties.isEmpty then [] else [("properties", .record (trees properties))]) =
      { t with properties } := by
  cases properties with
  | nil =>
      cases t
      cases h
      rfl
  | cons first others =>
      calc t.withFields [("properties", .record (trees (first :: others)))]
          = { t with properties := propertiesOf (.record (trees (first :: others))) } := rfl
        _ = { t with properties := first :: others } := by rw [hread]

end Traits

/-! ### Reading what was written -/

/-- The schema of a record is the one of which its fields speak. -/
lemma ofTree_record (fields : Listing Value) :
    ofTree (.record fields) = (Traits.withFields {} fields).schema := by
  rw [Value.record, ofTree]
  refine congrArg Traits.schema ?_
  induction fields with
  | nil => rfl
  | cons field rest ih =>
      rw [List.map_cons, traitsOf, ih]
      rfl

/-- Properties are read as they were written, if each of them is. -/
lemma propertiesOf_trees {properties : List (String × Schema)}
    (h : ∀ entry ∈ properties, ofTree entry.2.tree = entry.2) :
    propertiesOf (.record (trees properties)) = properties := by
  rw [Value.record, propertiesOf]
  induction properties with
  | nil => rfl
  | cons entry rest ih =>
      rw [trees, List.map_cons, propertiesIn, h entry List.mem_cons_self,
        ih fun other hother => h other (List.mem_cons_of_mem _ hother)]

/-- **A schema is read as it was written.** -/
theorem ofTree_tree {s : Schema} (h : s.PlainReferences) : ofTree s.tree = s := by
  induction h with
  | bare m | string m | boolean m =>
      rw [tree, ofTree_record, Traits.withFields_commonTree rfl rfl rfl]
      rfl
  | numeric m isWhole minimum maximum =>
      rw [tree, ofTree_record, List.append_assoc, Traits.withFields_append,
        Traits.withFields_limitTree, Traits.withFields_commonTree rfl rfl rfl]
      cases isWhole <;> rfl
  | object _ ih =>
      rw [tree, ofTree_record, List.append_assoc, Traits.withFields_append,
        Traits.withFields_append, Traits.withFields_required,
        Traits.withFields_properties rfl (propertiesOf_trees ih),
        Traits.withFields_commonTree rfl rfl rfl]
      rfl
  | reference nullable target =>
      rw [tree, ofTree_record]
      cases nullable <;> rfl

end Schema

namespace Parameter

open Schema

/-- **The parameter of a tree.** -/
def ofTree? : Value → Option Parameter
  | .map entries =>
    match Value.field? "name" entries, Value.field? "in" entries,
        Value.field? "description" entries, Value.field? "required" entries,
        Value.field? "schema" entries with
    | some (.text name), some (.text word), some (.text description), some (.bool required),
        some schema =>
      (Location.ofWord? word).map fun location =>
        ⟨name, location, description, required, Schema.ofTree schema⟩
    | _, _, _, _, _ => none
  | _ => none

/-- **A parameter is read as it was written.** -/
theorem ofTree?_tree {p : Parameter} (h : p.schema.PlainReferences) : ofTree? p.tree = some p := by
  have hplace : ofTree? p.tree =
      some ⟨p.name, p.location, p.description, p.required, Schema.ofTree p.schema.tree⟩ := by
    obtain ⟨name, location, description, required, schema⟩ := p
    cases location <;> rfl
  rw [hplace, ofTree_tree h]

variable {s t : Schema} {p q : Parameter}

/-- **Trees lose nothing.** Let no reference have values to choose from, which is so for every
reference that a registry hands out. Then a schema and a parameter can be read back from their trees,
whatever these leave out, and equal trees come from equal schemas and from equal parameters. -/
theorem tree_lossless (hs : s.PlainReferences) (ht : t.PlainReferences)
    (hp : p.schema.PlainReferences) (hq : q.schema.PlainReferences) :
    (s.tree = t.tree ↔ s = t) ∧ (p.tree = q.tree ↔ p = q) ∧
      Schema.ofTree s.tree = s ∧ ofTree? p.tree = some p ∧
      ∀ (k : Registry) (name : String), (k.reference name).1.PlainReferences := by
  refine ⟨⟨fun htree => ?_, congrArg Schema.tree⟩, ⟨fun htree => ?_, congrArg tree⟩,
    ofTree_tree hs, ofTree?_tree hp, fun k name => .reference _ _⟩
  · rw [← ofTree_tree hs, ← ofTree_tree ht, htree]
  · exact Option.some.inj (by rw [← ofTree?_tree hp, ← ofTree?_tree hq, htree])

/-- An object with a number that has zero as a limit, perhaps, a reference to what may be null, and an
object without properties that has an empty choice. -/
def account (least : Option Limit) : Schema :=
  .object ⟨true, []⟩
    [("credit", .numeric ⟨false, [.text ""]⟩ false least none),
      ("owner", .reference ⟨true, []⟩ "#/components/schemas/User"),
      ("rest", .object {} [] ["type"])]
    ["owner", "owner"]

/-- **A limit of zero is not an absent limit**, deep in a schema and in the tree of a parameter. -/
theorem zeroLimit_lossless :
    (account (some (.whole 0))).tree ≠ (account none).tree ∧
      ({ name := "account", location := .query, schema := account none } : Parameter).tree ≠
        ({ name := "account", location := .path, schema := account none } : Parameter).tree ∧
      Schema.ofTree (account (some (.whole 0))).tree = account (some (.whole 0)) := by
  have hplain : ∀ least, (account least).PlainReferences := by
    refine fun least => .object fun entry hentry => ?_
    simp only [List.mem_cons, List.not_mem_nil, or_false] at hentry
    rcases hentry with rfl | rfl | rfl
    · exact .numeric _ _ _ _
    · exact .reference _ _
    · exact .object fun _ hnone => absurd hnone List.not_mem_nil
  obtain ⟨hschema, hparameter, hread, -, -⟩ := tree_lossless
    (p := { name := "account", location := .query, schema := account none })
    (q := { name := "account", location := .path, schema := account none })
    (hplain (some (.whole 0))) (hplain none) (hplain none) (hplain none)
  refine ⟨fun htree => ?_, fun htree => ?_, hread⟩
  · have hobject := hschema.mp htree
    simp [account] at hobject
  · have hlocation := congrArg Parameter.location (hparameter.mp htree)
    cases hlocation

end Parameter

end RouteAtlas
