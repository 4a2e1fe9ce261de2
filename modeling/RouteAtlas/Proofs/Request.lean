/-
What the rules of a route can do to its operation.

* `Rule.interpretEntry_eq_ok_iff`: what an entry of rules is read as.
* `Request.bodySchema_eq`: **the object of a row of parameters**.
* `Request.fieldsOf`, `Request.warning?`: the documented fields of a route, none if its rules fail,
  and the warning in this case, unless there is no text for it.
* `Request.compose_eq`: **an operation with the fields of a route** has them as further parameters
  or as its body, by its method alone; a failure stands for no fields.
* `Request.location_of_mem_fieldsOf`: fields are parameters of the query.
* `Generator.sketch`, `Generator.outline_eq`: an endpoint as an operation, part by part, around its
  description.
* `Generator.located_path_sketch`: the parameters of the path come from the path alone.
-/
import Mathlib.Data.List.Basic
import RouteAtlas.Resolution
import RouteAtlas.Proofs.ObjectProperties
import RouteAtlas.Proofs.Parameter

namespace RouteAtlas

/-! ### Fields -/

namespace Rule

/-- A field is its schema under its name. -/
lemma interpret_eq (field : String) (spec : Value) :
    interpret field spec = (schema field (words spec)).map fun s =>
      ⟨field, .query, "", (words spec).contains "required", s⟩ := by
  rw [interpret]
  cases schema field (words spec) <;> rfl

/-- The name of a field is the text of its key. -/
lemma nameOf_eq_ok_iff {key : Value} {name : String} :
    nameOf key = .ok name ↔ Value.readText key = .accepted name := by
  rw [nameOf, Checked.orFail_eq_ok_iff, Checked.under_eq_accepted_iff]

/-- **An entry that can be read** is the field that its tokens describe, under the text of its key. -/
lemma interpretEntry_eq_ok_iff {key spec : Value} {p : Parameter} :
    interpretEntry (key, spec) = .ok p ↔
      ∃ name s, Value.readText key = .accepted name ∧ schemaUnder key (words spec) = .ok s ∧
        p = ⟨name, .query, "", (words spec).contains "required", s⟩ := by
  simp only [interpretEntry, ← nameOf_eq_ok_iff]
  cases schemaUnder key (words spec) with
  | error failure => simp [bind, Except.bind]
  | ok s =>
      cases nameOf key with
      | error failure => simp [bind, Except.bind]
      | ok name => simp [bind, Except.bind, eq_comm]

end Rule

/-! ### Fields as an object -/

/-- A parameter as a property that is added to an object. -/
def Parameter.addition (p : Parameter) : Addition :=
  ⟨p.name, p.schema, p.required⟩

namespace Request

/-- **The object of a row of parameters** has their schemas under their names, and must have the
distinct names of those that are required. -/
lemma bodySchema_eq (parameters : List Parameter) :
    bodySchema parameters =
      .object {} (Listing.ofPairs (parameters.map fun p => (p.name, p.schema)))
        ((parameters.filter (·.required)).map (·.name)).eraseDups := by
  have hadd : bodySchema parameters =
      (({} : Properties).addAll (parameters.map Parameter.addition)).schema {} := by
    rw [bodySchema, Properties.addAll, List.foldl_map]
    rfl
  have hgathers := Properties.gathers_addAll (parameters.map Parameter.addition)
  have hproperties := (Listing.collects_ofPairs _).unique hgathers.properties
  rw [hadd, Properties.schema, hproperties, hgathers.required, List.map_map, List.filter_map,
    List.map_map]
  rfl

/-! ### Fields and operations -/

variable (wording : Wording) (extractors : List Extractor) (queryMethods : List String) (r : Route)

/-- The fields that are documented for a route: none if its rules fail. -/
def fieldsOf : List Parameter :=
  match collect extractors r with
  | .ok parameters => parameters
  | .error _ => []

/-- The warning for a route: none unless its rules fail. It cannot be given if there is no text for
this failure. -/
def warning? : Except Failure (Option String) :=
  match collect extractors r with
  | .ok _ => .ok none
  | .error failure => (warning wording failure).map some

/-- The operation with fields, as further parameters or as a body by its method. -/
def withFields (fields : List Parameter) (op : Operation) : Operation :=
  if isQuery queryMethods op then op.addParameters fields
  else op.setBody (.json (bodySchema fields))

/-- Without fields a query stays as it is, and any other operation allows any object. -/
lemma withFields_nil (op : Operation) :
    withFields queryMethods [] op = withoutFields op (isQuery queryMethods op) := by
  rw [withFields, withoutFields]
  split <;> rfl

/-- **An operation with the fields of a route**: a failure stands for no fields and a warning. -/
theorem compose_eq (op : Operation) :
    compose wording extractors queryMethods r op =
      (withFields queryMethods (fieldsOf extractors r) op, warning? wording extractors r) := by
  rw [compose, fieldsOf, warning?]
  cases collect extractors r with
  | error failure => rw [withFields_nil]
  | ok parameters =>
      cases parameters with
      | nil => rw [withFields_nil]
      | cons p rest => rfl

/-! ### Fields are parameters of the query -/

/-- The parameters of a mapping of fields are passed in the query. -/
lemma location_of_interpretFields {entries : List (Value × Value)} {parameters : List Parameter}
    (h : Rule.interpretFields entries = .ok parameters) :
    ∀ p ∈ parameters, p.location = .query := by
  induction entries generalizing parameters with
  | nil =>
      cases h
      simp
  | cons entry rest ih =>
      rw [Rule.interpretFields] at h
      cases hfirst : Rule.interpretEntry entry with
      | error failure => rw [hfirst] at h; cases h
      | ok first =>
          cases hrest : Rule.interpretFields rest with
          | error failure => rw [hfirst, hrest] at h; cases h
          | ok others =>
              rw [hfirst, hrest] at h
              cases h
              intro p hp
              rcases List.mem_cons.mp hp with rfl | hother
              · obtain ⟨name, s, -, -, rfl⟩ := Rule.interpretEntry_eq_ok_iff.mp hfirst
                rfl
              · exact ih hrest p hother

/-- The parameters that rules describe are passed in the query. -/
lemma location_of_parametersOf {rules : Value} {parameters : List Parameter}
    (h : parametersOf rules = .ok parameters) : ∀ p ∈ parameters, p.location = .query := by
  rw [parametersOf.eq_def] at h
  split at h
  · split at h
    · exact location_of_interpretFields h
    · cases h
  · cases h
    simp

/-- **Fields are parameters of the query.** -/
theorem location_of_mem_fieldsOf {p : Parameter} (h : p ∈ fieldsOf extractors r) :
    p.location = .query := by
  rw [fieldsOf] at h
  split at h
  · next parameters hcollect =>
    rw [collect] at hcollect
    cases hrules : extract extractors r with
    | error failure => rw [hrules] at hcollect; cases hcollect
    | ok rules =>
        rw [hrules] at hcollect
        cases rules with
        | none => cases hcollect; simp at h
        | some rules => exact location_of_parametersOf hcollect p h
  · simp at h

end Request

/-! ### An endpoint as an operation -/

namespace Generator

open Request

variable (g : Generator) (e : Endpoint) (method : String)

/-- Whether the fields of a method are passed in the query. -/
def isQueryMethod : Bool :=
  (g.settings.queryMethods.map Text.lowerString).contains method

/-- What the description of an endpoint says: what is documented, and a warning below it if the
rules fail. -/
def describe : Except Failure String :=
  (warning? g.wording g.extractors e.route).map fun warning? =>
    match warning? with
    | some warning => appendWarning e.doc.description warning
    | none => e.doc.description

/-- The operation of an endpoint under a method, with a description: the fields are parameters or the
body. -/
def sketch (description : String) : Operation :=
  { g.start e method with
    parameters :=
      if g.isQueryMethod method then
        Parameter.enterAll (g.start e method).parameters (fieldsOf g.extractors e.route)
      else (g.start e method).parameters
    requestBody :=
      if g.isQueryMethod method then none
      else some (.json (bodySchema (fieldsOf g.extractors e.route)))
    summary := e.summary
    description := description }

/-- **An endpoint as an operation**, part by part, if there is a description. -/
theorem outline_eq : g.outline e method = (g.describe e).map (g.sketch e method) := by
  have hquery : isQuery g.settings.queryMethods (g.start e method) = g.isQueryMethod method := rfl
  rw [outline, compose_eq, withFields, hquery, describe]
  cases warning? g.wording g.extractors e.route with
  | error failure => rfl
  | ok warning? =>
      cases warning? <;> cases hmethod : g.isQueryMethod method <;>
        simp only [Except.map, sketch, hmethod] <;> rfl

/-- The outline of an endpoint is the sketch with its description. -/
lemma outline_eq_ok_iff {op : Operation} :
    g.outline e method = .ok op ↔
      ∃ description, g.describe e = .ok description ∧ op = g.sketch e method description := by
  rw [outline_eq]
  cases g.describe e with
  | error failure => simp [Except.map]
  | ok description => simp [Except.map, eq_comm]

/-- The parameters of the path of an endpoint have distinct keys. -/
lemma nodup_keys_start : ((g.start e method).parameters.map Parameter.key).Nodup := by
  have hnone : (([] : List Parameter).map Parameter.key).Nodup := List.nodup_nil
  exact Parameter.nodup_keys_enterAll hnone _

/-- The parameters of the path of an endpoint are passed in the path. -/
lemma location_of_mem_start {p : Parameter} (h : p ∈ (g.start e method).parameters) :
    p.location = .path := by
  rcases Parameter.mem_enterAll h with hnil | hpath
  · cases hnil
  · obtain ⟨placeholder, -, rfl⟩ := List.mem_map.mp hpath
    rfl

/-- **The parameters of the path come from the path alone**, whatever the rules say. -/
theorem located_path_sketch (description : String) :
    Parameter.located .path (g.sketch e method description).parameters =
      (g.start e method).parameters := by
  have hstart : Parameter.located .path (g.start e method).parameters =
      (g.start e method).parameters :=
    List.filter_eq_self.mpr fun p hp => by simp [location_of_mem_start g e method hp]
  rw [sketch]
  cases g.isQueryMethod method with
  | true =>
      have hfields : ∀ p ∈ fieldsOf g.extractors e.route, p.location ≠ .path := by
        intro p hp
        rw [location_of_mem_fieldsOf g.extractors e.route hp]
        decide
      exact (Parameter.located_enterAll hfields _).trans hstart
  | false => exact hstart

end Generator

end RouteAtlas
