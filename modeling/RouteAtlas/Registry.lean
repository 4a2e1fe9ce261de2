/-
What is registered while a document is made.

* `Components.reference`: the schema that leads to a component, which is registered on first use.
  Components are told apart by the segments of their names.
* `Components.get?_register`: components that are there already stay as they are.
* `Registry`: the handler classes met so far, and the components.
* `Registry.resolve`: the component of a name as it is used inside a registered class.
* `Consultation`: a computation of a host that asks for components and looks at what is registered,
  step by step.
-/
import RouteAtlas.Document
import RouteAtlas.QualifiedName
import RouteAtlas.Route.ClassInfo

namespace RouteAtlas

/-- Registered schemas by name. -/
abbrev Components := Listing Schema

namespace Components

/-- The schema that leads to a component. -/
def pointer (name : String) : Schema :=
  .reference {} ("#/components/schemas/" ++ QualifiedName.dotted name)

/-- The components with one for a name; one that is there already stays as it is. -/
def register (components : Components) (name : String) : Components :=
  if components.has (QualifiedName.dotted name) then components
  else components.put (QualifiedName.dotted name) (.make .object)

/-- Components that are there already stay as they are. -/
theorem get?_register {components : Components} {other : String} (name : String)
    (h : other ∈ components.names) : (components.register name).get? other = components.get? other := by
  unfold register
  split
  · rfl
  · next hn =>
    rw [Listing.get?_put]
    split
    · next he =>
      subst he
      exact absurd (Listing.has_iff_mem_names.2 h) hn
    · rfl

end Components

/-- What is registered while a document is made. -/
structure Registry where
  /-- Handler classes by their full names. -/
  classes : Listing ClassInfo := []
  components : Components := []

namespace Registry

/-- The registry with a class; a later one of a name counts. -/
def register (k : Registry) (c : ClassInfo) : Registry :=
  { k with classes := k.classes.put c.name c }

/-- The schema that leads to a component, and the registry that has it. -/
def reference (k : Registry) (name : String) : Schema × Registry :=
  (Components.pointer name, { k with components := k.components.register name })

/-- The full name of what is called `name` inside a registered class. -/
def fullName (k : Registry) (className name : String) : Except Failure String :=
  match k.classes.get? className with
  | some c => .ok (c.resolve name)
  | none => .error (.unknownClass className)

/-- The schema that leads to what is called `name` inside a class, and the registry that has it. -/
def resolve (k : Registry) (className name : String) : Except Failure Schema × Registry :=
  match k.fullName className name with
  | .ok full =>
    let (schema, k) := k.reference full
    (.ok schema, k)
  | .error failure => (.error failure, k)

end Registry

/-- A computation of a host that asks for components and looks at what is registered, step by
step. -/
inductive Consultation (α : Type)
  | done (result : α)
  | failed (failure : Failure)
  /-- Asks for the component of a full name. -/
  | reference (name : String) (next : Schema → Consultation α)
  /-- Asks for the component of a name that is used inside a class. -/
  | resolve (className name : String) (next : Schema → Consultation α)
  /-- Asks likewise, and goes on if the class is unknown. -/
  | attempt (className name : String) (next : Except Failure Schema → Consultation α)
  /-- Looks at what is registered. -/
  | look (next : Registry → Consultation α)

namespace Consultation

variable {α : Type}

/-- The result of a computation, and the registry behind it. It ends where a class is unknown,
unless it goes on by itself. -/
def run : Consultation α → Registry → Except Failure α × Registry
  | done result, k => (.ok result, k)
  | failed failure, k => (.error failure, k)
  | reference name next, k =>
    let (schema, k) := k.reference name
    (next schema).run k
  | resolve className name next, k =>
    match k.resolve className name with
    | (.ok schema, k) => (next schema).run k
    | (.error failure, k) => (.error failure, k)
  | attempt className name next, k =>
    let (answer, k) := k.resolve className name
    (next answer).run k
  | look next, k => (next k).run k

end Consultation

end RouteAtlas
