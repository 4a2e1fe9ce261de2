/-
Objects built up property by property.

An object has a listing of its properties and a list of the names that must be there, and an addition
touches both. The listing forgets: a name has the schema of its last addition. The list does not: a
name that was required once stays required, although its property may since have been added again
without being required.

* `Addition`, `Properties.addAll`, `Schema.addAll?`: a property that is added, and rows of additions.
* `Properties.Gathers`: what a row of additions leaves behind; `Properties.Gathers.add`: **one
  addition** keeps it; `Properties.gathers_addAll`: so every row does.
* `Schema.addAll?_schema`: a row of additions to an object never fails.
* `RequiredEver`, `RequiredLast`: names that some addition requires, and that the last one does.
* `Schema.addAll?_inStep_iff`: **properties and required names are in step, unless a required name is
  added again without being required**.
-/
import Mathlib.Data.List.Basic
import RouteAtlas.Proofs.Listing
import RouteAtlas.Schema

namespace RouteAtlas

/-- A property that is added to an object. -/
structure Addition where
  name : String
  schema : Schema
  isRequired : Bool

/-- **A name that some addition requires.** -/
def RequiredEver (additions : List Addition) (name : String) : Prop :=
  ∃ a ∈ additions, a.name = name ∧ a.isRequired = true

/-- **A name that its last addition requires.** -/
def RequiredLast (additions : List Addition) (name : String) : Prop :=
  ∃ i a, LastAt (·.name = name) additions i a ∧ a.isRequired = true

/-- What the last addition of a name requires, some addition requires. -/
lemma RequiredLast.ever {additions : List Addition} {name : String}
    (h : RequiredLast additions name) : RequiredEver additions name := by
  obtain ⟨i, a, hlast, hrequired⟩ := h
  exact ⟨a, List.mem_of_getElem? hlast.here, hlast.holds, hrequired⟩

namespace Properties

/-- Properties with a row of additions. -/
def addAll (p : Properties) (additions : List Addition) : Properties :=
  additions.foldl (fun p a => p.add a.name a.schema a.isRequired) p

/-- **What a row of additions leaves behind**: a listing that collects their schemas under their
names, and the distinct names that were ever required, in the order in which they first were. -/
structure Gathers (p : Properties) (additions : List Addition) : Prop where
  properties : p.properties.Collects (additions.map fun a => (a.name, a.schema))
  required : p.required = ((additions.filter (·.isRequired)).map (·.name)).eraseDups

namespace Gathers

variable {p : Properties} {done : List Addition}

/-- Without additions there is nothing. -/
lemma nil : Gathers {} [] :=
  ⟨Listing.Collects.nil, rfl⟩

/-- **One more addition** is gathered behind what was gathered before. -/
lemma add (h : p.Gathers done) (a : Addition) :
    (p.add a.name a.schema a.isRequired).Gathers (done ++ [a]) := by
  constructor
  · rw [List.map_append, List.map_singleton]
    exact h.properties.put a.name a.schema
  · rw [Properties.add, h.required, List.filter_append, List.map_append]
    cases hrequired : a.isRequired with
    | false => simp [hrequired]
    | true =>
        rw [List.filter_cons_of_pos hrequired, List.filter_nil, List.map_singleton,
          eraseDups_concat]
        simp only [Bool.true_and, Bool.not_eq_true', List.contains_eq_mem, List.mem_eraseDups,
          decide_eq_false_iff_not]
        exact ite_not ..

/-- A row of additions is gathered behind what was gathered before. -/
lemma addAll (h : p.Gathers done) (additions : List Addition) :
    (p.addAll additions).Gathers (done ++ additions) := by
  induction additions generalizing p done with
  | nil =>
      rw [List.append_nil]
      exact h
  | cons a rest ih =>
      have hstep := ih (h.add a)
      rw [List.append_assoc] at hstep
      exact hstep

/-- The required names are those that some addition requires. -/
lemma mem_required (h : p.Gathers done) {name : String} :
    name ∈ p.required ↔ RequiredEver done name := by
  rw [h.required, List.mem_eraseDups, List.mem_map]
  constructor
  · rintro ⟨a, ha, hname⟩
    obtain ⟨hmem, hrequired⟩ := List.mem_filter.mp ha
    exact ⟨a, hmem, hname, hrequired⟩
  · rintro ⟨a, hmem, hname, hrequired⟩
    exact ⟨a, List.mem_filter.mpr ⟨hmem, hrequired⟩, hname⟩

/-- A name has the schema of its last addition. -/
lemma get?_eq_some_iff (h : p.Gathers done) {name : String} {schema : Schema} :
    p.properties.get? name = some schema ↔
      ∃ i a, LastAt (·.name = name) done i a ∧ a.schema = schema := by
  have hvalues : Listing.valuesOf (done.map fun a => (a.name, a.schema)) name =
      (done.filter (·.name = name)).map (·.schema) := by
    rw [Listing.valuesOf, List.filter_map, List.map_map]
    rfl
  rw [h.properties.get?, hvalues, List.getLast?_map, Option.map_eq_some_iff]
  simp only [getLast?_filter_eq_some_iff, decide_eq_true_eq]
  constructor
  · rintro ⟨a, ⟨i, hlast⟩, hschema⟩
    exact ⟨i, a, hlast, hschema⟩
  · rintro ⟨i, a, hlast, hschema⟩
    exact ⟨a, ⟨i, hlast⟩, hschema⟩

/-- The names of the properties are the distinct names of the additions. -/
lemma names (h : p.Gathers done) : p.properties.names = (done.map (·.name)).eraseDups := by
  rw [h.properties.names, List.map_map]
  rfl

/-- A required name has a property. -/
lemma mem_names_of_mem_required (h : p.Gathers done) {name : String} (hname : name ∈ p.required) :
    name ∈ p.properties.names := by
  obtain ⟨a, hmem, rfl, -⟩ := h.mem_required.mp hname
  rw [h.names, List.mem_eraseDups]
  exact List.mem_map.mpr ⟨a, hmem, rfl⟩

end Gathers

/-- **Every row of additions** to nothing is gathered. -/
lemma gathers_addAll (additions : List Addition) :
    (({} : Properties).addAll additions).Gathers additions :=
  Gathers.nil.addAll additions

end Properties

namespace Schema

/-- The schema with a row of additions; only objects can have them. -/
def addAll? (s : Schema) (additions : List Addition) : Option Schema :=
  additions.foldlM (fun s a => s.addProperty? a.name a.schema a.isRequired) s

/-- **Additions to an object never fail**, and leave its modifiers. -/
lemma addAll?_schema (p : Properties) (m : Modifiers) (additions : List Addition) :
    (p.schema m).addAll? additions = some ((p.addAll additions).schema m) := by
  induction additions generalizing p with
  | nil => rfl
  | cons a rest ih => exact ih (p.add a.name a.schema a.isRequired)

/-- **Properties and required names are in step, unless a required name is added again without being
required.** A row of additions to a new object never fails. The object has the distinct names of the
row, in the order in which they were first added, each with the schema of its last addition. Its
required names are distinct, have properties, and are those that some addition requires; so they are
those that the last addition of each requires exactly if this is so for every name that is required
at all. -/
theorem addAll?_inStep_iff (additions : List Addition) :
    ∃ p : Properties, (make .object).addAll? additions = some (p.schema {}) ∧
      p.properties.names = (additions.map (·.name)).eraseDups ∧
      (∀ name schema, p.properties.get? name = some schema ↔
        ∃ i a, LastAt (·.name = name) additions i a ∧ a.schema = schema) ∧
      p.required.Nodup ∧ (∀ name ∈ p.required, name ∈ p.properties.names) ∧
      (∀ name, name ∈ p.required ↔ RequiredEver additions name) ∧
      ((∀ name, name ∈ p.required ↔ RequiredLast additions name) ↔
        ∀ name, RequiredEver additions name → RequiredLast additions name) := by
  have hgathers := Properties.gathers_addAll additions
  have hnodup : (({} : Properties).addAll additions).required.Nodup := by
    rw [hgathers.required]
    exact nodup_eraseDups _
  refine ⟨_, addAll?_schema {} {} additions, hgathers.names, fun _ _ => hgathers.get?_eq_some_iff,
    hnodup, fun _ => hgathers.mem_names_of_mem_required, fun _ => hgathers.mem_required, ?_⟩
  constructor
  · intro hstep name hever
    exact (hstep name).mp (hgathers.mem_required.mpr hever)
  · intro hlast name
    rw [hgathers.mem_required]
    exact ⟨hlast name, RequiredLast.ever⟩

/-- **A name that is no longer required**: it was added as a required text and again as a number that
need not be there. The property is the number, and it must be there. -/
theorem relaxed_notInStep :
    (make .object).addAll? [⟨"note", make .string, true⟩, ⟨"note", make .integer, false⟩] =
        some (.object {} [("note", make .integer)] ["note"]) ∧
      ¬RequiredLast [⟨"note", make .string, true⟩, ⟨"note", make .integer, false⟩] "note" := by
  refine ⟨rfl, ?_⟩
  rintro ⟨i, a, hlast, hrequired⟩
  match i with
  | 0 => exact hlast.after 1 _ Nat.one_pos rfl rfl
  | 1 =>
      cases hlast.here
      cases hrequired
  | i + 2 => cases hlast.here

end Schema

end RouteAtlas
