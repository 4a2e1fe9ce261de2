/-
Routes that were read are read back.

A reader accepts more than one form of a part: numbers and truth values as texts, fields that are
left out, and fields that it does not know. What it accepted is written in one form, and this form
is read as the same.

* `Checked.all_eq_accepted_iff`: a row is accepted exactly if each item is.
* `Value.Stable`: whatever a reader accepts is read back in the form in which it is written;
  `Value.Stable.optional`, `Value.Stable.list`, `Value.Stable.mapping`: parts of a whole.
* `Value.Stable.required`, `Value.Stable.withDefault`: a field of a record, under its name.
* `Route.stable_read`: routes, with all that is known about their handlers.
* `Manifest.routesFrom_eq_ok_iff`: a row of routes is read exactly if each route is.
* `Manifest.ofValue_toValue`: **the routes of a manifest are read back**.
-/
import Mathlib.Data.List.Forall2
import RouteAtlas.Manifest

namespace RouteAtlas

/-! ### Rows and fields that are accepted -/

namespace Checked

variable {α β : Type}

/-- A row is accepted exactly if each item is. -/
lemma all_eq_accepted_iff {check : β → Checked α} {start : Nat} {items : List β}
    {values : List α} :
    all check start items = accepted values ↔
      List.Forall₂ (fun item a => check item = accepted a) items values := by
  induction items generalizing start values with
  | nil =>
      rw [all, List.forall₂_nil_left_iff, accepted.injEq]
      exact eq_comm
  | cons item rest ih =>
      rw [all, seq_eq_accepted_iff, List.forall₂_cons_left_iff]
      constructor
      · rintro ⟨g, others, hitem, hrest, rfl⟩
        obtain ⟨a, ha, rfl⟩ := map_eq_accepted_iff.mp hitem
        exact ⟨a, others, under_eq_accepted_iff.mp ha, ih.mp hrest, rfl⟩
      · rintro ⟨a, others, ha, hrest, rfl⟩
        refine ⟨List.cons a, others, ?_, ih.mpr hrest, rfl⟩
        exact map_eq_accepted_iff.mpr ⟨a, under_eq_accepted_iff.mpr ha, rfl⟩

/-- A record of one more field is accepted exactly if the field and the record so far are. -/
lemma fields_eq_accepted_iff {f : Checked (α → β)} {x : Checked α} {b : β} :
    f <*> x = accepted b ↔ ∃ a, x = accepted a ∧ ∃ g, f = accepted g ∧ g a = b := by
  refine seq_eq_accepted_iff.trans ?_
  constructor
  · rintro ⟨g, a, hf, hx, hb⟩
    exact ⟨a, hx, g, hf, hb⟩
  · rintro ⟨a, hx, g, hf, hb⟩
    exact ⟨g, a, hf, hx, hb⟩

/-- A record of one field is accepted exactly if the field is. -/
lemma field_eq_accepted_iff {f : α → β} {x : Checked α} {b : β} :
    f <$> x = accepted b ↔ ∃ a, x = accepted a ∧ f a = b :=
  map_eq_accepted_iff

/-- One more field. -/
lemma fields_accepted {f : Checked (α → β)} {x : Checked α} {g : α → β} {a : α}
    (hf : f = accepted g) (hx : x = accepted a) : f <*> x = accepted (g a) := by
  rw [hf, hx]
  rfl

/-- The first field. -/
lemma field_accepted {f : α → β} {x : Checked α} {a : α} (hx : x = accepted a) :
    f <$> x = accepted (f a) := by
  rw [hx]
  rfl

end Checked

/-! ### What is accepted is read back -/

namespace Value

variable {α : Type} {read : Value → Checked α} {write : α → Value}

/-- **A reader is stable** under a form of writing: whatever it accepts is read back. -/
structure Stable (read : Value → Checked α) (write : α → Value) : Prop where
  again : ∀ {value : Value} {a : α}, read value = .accepted a → read (write a) = .accepted a

namespace Stable

lemma text : Stable readText .text :=
  ⟨fun _ => rfl⟩

lemma truth : Stable readTruth .bool :=
  ⟨fun _ => rfl⟩

lemma whole : Stable readWhole .int :=
  ⟨fun _ => rfl⟩

/-- Optional parts are read back if no part is written as null. -/
lemma optional (h : Stable read write) (hnull : ∀ a, write a ≠ null) :
    Stable (readOptional read) fun part => (part.map write).getD null := by
  constructor
  intro value part hread
  refine readOptional_getD (fun a ha => ?_) hnull
  cases ha
  cases value with
  | null => cases hread
  | _ =>
      obtain ⟨b, hb, heq⟩ := Checked.map_eq_accepted_iff.mp hread
      cases heq
      exact h.again hb

/-- Rows of accepted values are read back. -/
lemma forall₂ (h : Stable read write) {items : List Value} {values : List α}
    (hread : List.Forall₂ (fun item a => read item = .accepted a) items values) :
    List.Forall₂ (fun item a => read item = .accepted a) (values.map write) values := by
  induction hread with
  | nil => exact .nil
  | cons hitem _ ih => exact .cons (h.again hitem) ih

/-- Lists are read back as lists, also if they were given in another form. -/
lemma list (h : Stable read write) : Stable (readList read) fun values => .list (values.map write) := by
  constructor
  intro value values hread
  have hitems : ∃ items, Checked.all read 0 items = .accepted values := by
    cases value with
    | list items => exact ⟨items, hread⟩
    | tuple items => exact ⟨items, hread⟩
    | set items => exact ⟨items, hread⟩
    | _ => cases hread
  obtain ⟨items, hall⟩ := hitems
  exact Checked.all_eq_accepted_iff.mpr (h.forall₂ (Checked.all_eq_accepted_iff.mp hall))

/-- Mappings are read back, as no two of their names are the same. -/
lemma mapping (h : ∀ a, read (write a) = .accepted a) :
    Stable (readMapping read) fun entries =>
      .record (entries.map fun entry => (entry.1, write entry.2)) :=
  ⟨fun hread => readMapping_record h (nodup_names_of_readMapping hread)⟩

lemma namedTexts : Stable (readMapping readText) fun entries =>
    .record (entries.map fun entry => (entry.1, .text entry.2)) :=
  mapping fun _ => rfl

variable {entries : List (Value × Value)} {fields : Listing Value} {name : String} {a : α}

/-- **A field that has to be there** is read back where it is written under its name. -/
lemma required (h : Stable read write) (hread : Value.required entries name read = .accepted a)
    (hget : fields.get? name = some (write a)) :
    Value.required (fields.map fun field => (.text field.1, field.2)) name read = .accepted a := by
  rw [Value.required, field?_record, hget]
  rw [Value.required] at hread
  split at hread
  · exact Checked.under_eq_accepted_iff.mpr (h.again (Checked.under_eq_accepted_iff.mp hread))
  · cases hread

/-- **A field that may be left out** is read back where it is written under its name, as long as
the value that stands for it is. -/
lemma withDefault (h : Stable read write) {absent : α} (habsent : read (write absent) = .accepted absent)
    (hread : Value.withDefault entries name read absent = .accepted a)
    (hget : fields.get? name = some (write a)) :
    Value.withDefault (fields.map fun field => (.text field.1, field.2)) name read absent =
      .accepted a := by
  rw [Value.withDefault, field?_record, hget]
  rw [Value.withDefault] at hread
  refine Checked.under_eq_accepted_iff.mpr ?_
  split at hread
  · exact h.again (Checked.under_eq_accepted_iff.mp hread)
  · cases hread
    exact habsent

end Stable

/-- Only a mapping is read as a record. -/
lemma exists_of_readRecord {read : List (Value × Value) → Checked α} {value : Value} {a : α}
    (h : readRecord read value = .accepted a) : ∃ entries, read entries = .accepted a := by
  cases value with
  | map entries => exact ⟨entries, h⟩
  | _ => cases h

end Value

/-! ### Routes and what is known about their handlers -/

open Value Checked

/-- The parameters of a documentation block are read back. -/
lemma DocParam.stable_read : Stable (readRecord DocParam.read) DocParam.toValue := by
  constructor
  intro value p h
  obtain ⟨entries, h₀⟩ := exists_of_readRecord h
  obtain ⟨description, hdescription, _, h₁, rfl⟩ := fields_eq_accepted_iff.mp h₀
  obtain ⟨typeName, htypeName, _, h₂, rfl⟩ := fields_eq_accepted_iff.mp h₁
  obtain ⟨name, hname, rfl⟩ := field_eq_accepted_iff.mp h₂
  refine fields_accepted (fields_accepted (field_accepted ?_) ?_) ?_
  · exact Stable.text.required hname rfl
  · exact (Stable.text.optional nofun).withDefault rfl htypeName rfl
  · exact Stable.text.withDefault rfl hdescription rfl

/-- Documentation blocks are read back. -/
lemma DocBlock.stable_read : Stable (readRecord DocBlock.read) DocBlock.toValue := by
  constructor
  intro value d h
  obtain ⟨entries, h₀⟩ := exists_of_readRecord h
  obtain ⟨tags, htags, _, h₁, rfl⟩ := fields_eq_accepted_iff.mp h₀
  obtain ⟨params, hparams, _, h₂, rfl⟩ := fields_eq_accepted_iff.mp h₁
  obtain ⟨description, hdescription, _, h₃, rfl⟩ := fields_eq_accepted_iff.mp h₂
  obtain ⟨summary, hsummary, rfl⟩ := field_eq_accepted_iff.mp h₃
  refine fields_accepted (fields_accepted (fields_accepted (field_accepted ?_) ?_) ?_) ?_
  · exact Stable.text.withDefault rfl hsummary rfl
  · exact Stable.text.withDefault rfl hdescription rfl
  · exact DocParam.stable_read.list.withDefault rfl hparams rfl
  · exact Stable.text.list.withDefault rfl htags rfl

/-- Classes are read back. -/
lemma ClassInfo.stable_read : Stable (readRecord ClassInfo.read) ClassInfo.toValue := by
  constructor
  intro value c h
  obtain ⟨entries, h₀⟩ := exists_of_readRecord h
  obtain ⟨doc, hdoc, _, h₁, rfl⟩ := fields_eq_accepted_iff.mp h₀
  obtain ⟨imports, himports, _, h₂, rfl⟩ := fields_eq_accepted_iff.mp h₁
  obtain ⟨name, hname, rfl⟩ := field_eq_accepted_iff.mp h₂
  refine fields_accepted (fields_accepted (field_accepted ?_) ?_) ?_
  · exact Stable.text.required hname rfl
  · exact Stable.namedTexts.withDefault rfl himports rfl
  · exact (DocBlock.stable_read.optional nofun).withDefault rfl hdoc rfl

/-- Rules that are spelled out are read from a mapping. -/
lemma Rules.read_eq_literal_iff {value : Value} {entries : Listing Value} :
    Rules.read value = accepted (.literal entries) ↔
      readMapping accepted value = accepted entries := by
  cases value with
  | map given =>
      rw [Rules.read]
      · cases readMapping accepted (.map given) <;> simp [under]
      · rintro name ⟨⟩
  | _ => constructor <;> rintro ⟨⟩

/-- Rules that are computed are read from a function. -/
lemma Rules.eq_callable_of_read {value : Value} {function : String}
    (h : Rules.read value = accepted (.computed function)) : value = .callable function := by
  cases value with
  | callable name =>
      cases h
      rfl
  | map given =>
      rw [Rules.read] at h
      · cases hentries : readMapping accepted (.map given) <;> simp [hentries, under] at h
      · rintro name ⟨⟩
  | _ => cases h

/-- Rules are read back: a mapping has each of its names once, and a function is known by name. -/
lemma Rules.stable_read : Stable Rules.read Rules.toValue := by
  constructor
  intro value rules h
  cases rules with
  | literal entries =>
      have hentries := Rules.read_eq_literal_iff.mp h
      have hsame : (entries.map fun entry => (entry.1, id entry.2)) = entries := List.map_id _
      have hagain : readMapping accepted (.record (entries.map fun entry => (entry.1, id entry.2))) =
          accepted entries :=
        readMapping_record (fun _ => rfl) (nodup_names_of_readMapping hentries)
      rw [hsame] at hagain
      exact Rules.read_eq_literal_iff.mpr hagain
  | computed function =>
      rw [Rules.eq_callable_of_read h] at h
      exact h

/-- Declared parameters are read back. -/
lemma HandlerParameter.stable_read :
    Stable (readRecord HandlerParameter.read) HandlerParameter.toValue := by
  constructor
  intro value p h
  obtain ⟨entries, h₀⟩ := exists_of_readRecord h
  obtain ⟨isRequest, hisRequest, _, h₁, rfl⟩ := fields_eq_accepted_iff.mp h₀
  obtain ⟨position, hposition, _, h₂, rfl⟩ := fields_eq_accepted_iff.mp h₁
  obtain ⟨typeName, htypeName, _, h₃, rfl⟩ := fields_eq_accepted_iff.mp h₂
  obtain ⟨name, hname, rfl⟩ := field_eq_accepted_iff.mp h₃
  refine fields_accepted (fields_accepted (fields_accepted (field_accepted ?_) ?_) ?_) ?_
  · exact Stable.text.required hname rfl
  · exact (Stable.text.optional nofun).withDefault rfl htypeName rfl
  · exact Stable.whole.withDefault rfl hposition rfl
  · exact Stable.truth.withDefault rfl hisRequest rfl

/-- Request objects are read back. -/
lemma FormRequest.stable_read : Stable (readRecord FormRequest.read) FormRequest.toValue := by
  constructor
  intro value f h
  obtain ⟨entries, h₀⟩ := exists_of_readRecord h
  obtain ⟨rules, hrules, _, h₁, rfl⟩ := fields_eq_accepted_iff.mp h₀
  obtain ⟨className, hclassName, rfl⟩ := field_eq_accepted_iff.mp h₁
  refine fields_accepted (field_accepted ?_) ?_
  · exact Stable.text.required hclassName rfl
  · exact Rules.stable_read.required hrules rfl

/-- Validating calls are read back. -/
lemma ValidateCall.stable_read : Stable (readRecord ValidateCall.read) ValidateCall.toValue := by
  constructor
  intro value v h
  obtain ⟨entries, h₀⟩ := exists_of_readRecord h
  obtain ⟨rules, hrules, rfl⟩ := field_eq_accepted_iff.mp h₀
  exact field_accepted (Rules.stable_read.required hrules rfl)

/-- Handlers are read back. -/
lemma Handler.stable_read : Stable (readRecord Handler.read) Handler.toValue := by
  constructor
  intro value handler h
  obtain ⟨entries, h₀⟩ := exists_of_readRecord h
  obtain ⟨validateCall, hvalidateCall, _, h₁, rfl⟩ := fields_eq_accepted_iff.mp h₀
  obtain ⟨formRequest, hformRequest, _, h₂, rfl⟩ := fields_eq_accepted_iff.mp h₁
  obtain ⟨doc, hdoc, _, h₃, rfl⟩ := fields_eq_accepted_iff.mp h₂
  obtain ⟨parameters, hparameters, _, h₄, rfl⟩ := fields_eq_accepted_iff.mp h₃
  obtain ⟨method, hmethod, _, h₅, rfl⟩ := fields_eq_accepted_iff.mp h₄
  obtain ⟨classInfo, hclassInfo, rfl⟩ := field_eq_accepted_iff.mp h₅
  refine fields_accepted (fields_accepted (fields_accepted (fields_accepted
    (fields_accepted (field_accepted ?_) ?_) ?_) ?_) ?_) ?_
  · exact (ClassInfo.stable_read.optional nofun).withDefault rfl hclassInfo rfl
  · exact (Stable.text.optional nofun).withDefault rfl hmethod rfl
  · exact HandlerParameter.stable_read.list.withDefault rfl hparameters rfl
  · exact (DocBlock.stable_read.optional nofun).withDefault rfl hdoc rfl
  · exact (FormRequest.stable_read.optional nofun).withDefault rfl hformRequest rfl
  · exact (ValidateCall.stable_read.optional nofun).withDefault rfl hvalidateCall rfl

/-- **Routes are read back**, with all that is known about their handlers. -/
lemma Route.stable_read : Stable Route.read Route.toValue := by
  constructor
  intro value r h
  obtain ⟨entries, h₀⟩ := exists_of_readRecord h
  obtain ⟨handler, hhandler, _, h₁, rfl⟩ := fields_eq_accepted_iff.mp h₀
  obtain ⟨parameterNames, hparameterNames, _, h₂, rfl⟩ := fields_eq_accepted_iff.mp h₁
  obtain ⟨middleware, hmiddleware, _, h₃, rfl⟩ := fields_eq_accepted_iff.mp h₂
  obtain ⟨name, hname, _, h₄, rfl⟩ := fields_eq_accepted_iff.mp h₃
  obtain ⟨uri, huri, _, h₅, rfl⟩ := fields_eq_accepted_iff.mp h₄
  obtain ⟨methods, hmethods, rfl⟩ := field_eq_accepted_iff.mp h₅
  refine fields_accepted (fields_accepted (fields_accepted (fields_accepted
    (fields_accepted (field_accepted ?_) ?_) ?_) ?_) ?_) ?_
  · exact Stable.text.list.required hmethods rfl
  · exact Stable.text.required huri rfl
  · exact (Stable.text.optional nofun).withDefault rfl hname rfl
  · exact Stable.text.list.withDefault rfl hmiddleware rfl
  · exact (Stable.text.list.optional nofun).withDefault rfl hparameterNames rfl
  · exact (Handler.stable_read.optional nofun).withDefault rfl hhandler rfl

/-! ### Manifests -/

namespace Manifest

/-- A row of routes is read exactly if each route is. -/
lemma routesFrom_eq_ok_iff {index : Nat} {items : List Value} {routes : List Route} :
    routesFrom index items = .ok routes ↔
      List.Forall₂ (fun item r => Route.read item = .accepted r) items routes := by
  induction items generalizing index routes with
  | nil =>
      rw [routesFrom, List.forall₂_nil_left_iff, Except.ok.injEq]
      exact eq_comm
  | cons item rest ih =>
      rw [routesFrom, List.forall₂_cons_left_iff]
      cases hitem : Route.read item with
      | rejected first more => simp
      | accepted r =>
          simp only [← @ih (index + 1)]
          cases routesFrom (index + 1) rest <;> simp [Except.map, eq_comm]

/-- A manifest that is read is a list, or has one under the name for routes. -/
lemma exists_of_ofValue {value : Value} {routes : List Route} (h : ofValue value = .ok routes) :
    ∃ items, List.Forall₂ (fun item r => Route.read item = .accepted r) items routes := by
  rw [ofValue] at h
  split at h
  · next items _ => exact ⟨items, routesFrom_eq_ok_iff.mp h⟩
  · cases h

/-- **The routes of a manifest are read back.** What was read from any value is written as a list of
routes with all their fields, and is read again from this list, alone or under the name for routes,
as the same. -/
theorem ofValue_toValue {value : Value} {routes : List Route} (h : ofValue value = .ok routes) :
    ofValue (.list (routes.map Route.toValue)) = .ok routes ∧
      ofValue (.record [("routes", .list (routes.map Route.toValue))]) = .ok routes := by
  obtain ⟨items, hitems⟩ := exists_of_ofValue h
  have hagain : routesFrom 0 (routes.map Route.toValue) = .ok routes :=
    routesFrom_eq_ok_iff.mpr (Route.stable_read.forall₂ hitems)
  exact ⟨hagain, hagain⟩

/-- A manifest in which scalars stand in other forms, fields are left out, and others are unknown. -/
def looseManifest : Value :=
  .record [("version", .int 2), ("routes", .list [.record [
    ("uri", .text "api/users/{user}"), ("methods", .texts ["PUT", "PATCH"]), ("note", .null),
    ("handler", .record [
      ("class_info", .record [("name", .text "App.UserController"),
        ("doc", .record [("params", .list [.record [("name", .text "$user")]])])]),
      ("method", .text "update"),
      ("parameters", .list [
        .record [("name", .text "user"), ("position", .text " +1_0.00 "),
          ("is_request", .text "No")],
        .record [("name", .text "request"), ("position", .bool true), ("is_request", .int 1)]]),
      ("validate_call", .record [
        ("rules", .record [("name", .list [.text "required", .null])])])])]])]

/-- The route that the loose manifest holds. -/
def looseRoute : Route where
  methods := ["PUT", "PATCH"]
  uri := "api/users/{user}"
  handler := some {
    classInfo := some {
      name := "App.UserController"
      doc := some { params := [{ name := "$user" }] } }
    method := some "update"
    parameters := [{ name := "user", position := 10 },
      { name := "request", position := 1, isRequest := true }]
    validateCall := some ⟨.literal [("name", .list [.text "required", .null])]⟩ }

/-- **A loose manifest**: its route is read back from the one form in which it is written. -/
theorem looseManifest_toValue :
    ofValue looseManifest = .ok [looseRoute] ∧
      ofValue (.list [looseRoute.toValue]) = .ok [looseRoute] ∧
      ofValue (.record [("routes", .list [looseRoute.toValue])]) = .ok [looseRoute] := by
  have hread : ofValue looseManifest = .ok [looseRoute] := by with_unfolding_all rfl
  obtain ⟨hlist, hrecord⟩ := ofValue_toValue hread
  exact ⟨hread, hlist, hrecord⟩

end Manifest

end RouteAtlas
