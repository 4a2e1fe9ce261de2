/-
The components of a run.

All that a run does with the registry is said as a row of calls: the class of a route is registered,
or the host asks for a component. The registry of a run is what its calls leave behind, so what
holds of every row of calls holds of every run, whatever the host asks for and however it goes on.

* `Call`, `Registry.perform`, `Registry.answers`: calls on the registry, and their answers.
* `Registry.components_performAll`: calls register the names of their answers and nothing else.
* `Components.names_registerAll`: names lead to their normal forms, each once, in the order in which
  they first occur.
* `Components.Serve`: components serve a row of calls; `Components.serve_performAll`: **what calls
  leave behind serves them**.
* `Consultation.calls`, `Generator.calls`: the calls of a host and of a run;
  `Generator.Run.performAll_calls`: the registry of a run is what its calls leave behind.
* `Value.part?`, `Document.part?_tree`: a component stands in the tree of its document.
* `Generator.generate_serves`: **components never dangle, never split and never merge wrongly**.
-/
import RouteAtlas.Proofs.QualifiedName
import RouteAtlas.Proofs.Run

namespace RouteAtlas

/-! ### Calls -/

/-- A call on what is registered. -/
inductive Call
  /-- The class of a route is registered. -/
  | register (c : ClassInfo)
  /-- The component of a full name is asked for. -/
  | reference (name : String)
  /-- The component of a name that is used inside a class is asked for. -/
  | resolve (className name : String)

/-- An answer: the full name that was asked for, and the schema that leads to its component. -/
structure Answer where
  name : String
  schema : Schema

namespace Registry

/-- The registry after a call. -/
def perform (k : Registry) : Call → Registry
  | .register c => k.register c
  | .reference name => (k.reference name).2
  | .resolve className name => (k.resolve className name).2

/-- The answer to a call: none if nothing is asked for or the class is unknown. -/
def answer? (k : Registry) : Call → Option Answer
  | .register _ => none
  | .reference name => some ⟨name, (k.reference name).1⟩
  | .resolve className name =>
    match k.fullName className name, (k.resolve className name).1 with
    | .ok full, .ok schema => some ⟨full, schema⟩
    | _, _ => none

/-- The registry after a row of calls. -/
def performAll (k : Registry) (calls : List Call) : Registry :=
  calls.foldl perform k

/-- The answers to a row of calls, in order. -/
def answers (k : Registry) : List Call → List Answer
  | [] => []
  | call :: rest => (k.answer? call).toList ++ (k.perform call).answers rest

/-- An answer leads to the component of its name. -/
lemma schema_of_answer? {k : Registry} {call : Call} {a : Answer} (h : k.answer? call = some a) :
    a.schema = Components.pointer a.name := by
  cases call with
  | register c => cases h
  | reference name =>
      cases h
      rfl
  | resolve className name =>
      rw [answer?, resolve] at h
      cases hfull : k.fullName className name with
      | error failure => rw [hfull] at h; cases h
      | ok full =>
          rw [hfull] at h
          cases h
          rfl

/-- Answers lead to the components of their names. -/
lemma schema_of_mem_answers {k : Registry} {calls : List Call} {a : Answer}
    (h : a ∈ k.answers calls) : a.schema = Components.pointer a.name := by
  induction calls generalizing k with
  | nil => cases h
  | cons call rest ih =>
      rcases List.mem_append.mp h with hfirst | hrest
      · exact schema_of_answer? (Option.mem_toList.mp hfirst)
      · exact ih hrest

/-- **A call registers the name of its answer** and nothing else. -/
lemma components_perform (k : Registry) (call : Call) :
    (k.perform call).components =
      ((k.answer? call).toList.map (·.name)).foldl Components.register k.components := by
  cases call with
  | register c => rfl
  | reference name => rfl
  | resolve className name =>
      rw [perform, answer?, resolve]
      cases k.fullName className name <;> rfl

/-- **Calls register the names of their answers** and nothing else. -/
lemma components_performAll (k : Registry) (calls : List Call) :
    (k.performAll calls).components =
      ((k.answers calls).map (·.name)).foldl Components.register k.components := by
  induction calls generalizing k with
  | nil => rfl
  | cons call rest ih =>
      rw [answers, List.map_append, List.foldl_append, ← components_perform]
      exact ih (k.perform call)

/-- The registry after two rows of calls. -/
lemma performAll_append (k : Registry) (calls calls' : List Call) :
    k.performAll (calls ++ calls') = (k.performAll calls).performAll calls' :=
  List.foldl_append

end Registry

namespace Components

/-- A name is registered under its normal form, at the end if that is new. -/
lemma names_register (components : Components) (name : String) :
    (components.register name).names =
      if QualifiedName.dotted name ∈ components.names then components.names
      else components.names ++ [QualifiedName.dotted name] := by
  rw [register]
  by_cases h : QualifiedName.dotted name ∈ components.names
  · rw [if_pos (Listing.has_iff_mem_names.mpr h), if_pos h]
  · rw [if_neg (mt Listing.has_iff_mem_names.mp h), if_neg h, Listing.names_put, if_neg h]

/-- **Names are registered under their normal forms**, each once, in the order in which they first
occur. -/
lemma names_registerAll {components : Components} {done : List String}
    (h : components.names = (done.map QualifiedName.dotted).eraseDups) (names : List String) :
    (names.foldl register components).names =
      ((done ++ names).map QualifiedName.dotted).eraseDups := by
  induction names generalizing components done with
  | nil => rw [List.append_nil]; exact h
  | cons name rest ih =>
      have hstep : (components.register name).names =
          ((done ++ [name]).map QualifiedName.dotted).eraseDups := by
        rw [names_register, List.map_append, List.map_singleton, eraseDups_concat, h]
      rw [List.foldl_cons, ih hstep, List.append_assoc, List.singleton_append]

/-- What is registered already stays as it is, whatever is registered then. -/
lemma get?_registerAll {components : Components} {key : String} (h : key ∈ components.names)
    (names : List String) :
    (names.foldl register components).get? key = components.get? key := by
  induction names generalizing components with
  | nil => rfl
  | cons name rest ih =>
      have hkey : key ∈ (components.register name).names := by
        rw [names_register]
        split
        · exact h
        · exact List.mem_append_left _ h
      rw [List.foldl_cons, ih hkey, get?_register name h]

/-- Schemas lead to one component exactly if their names have the same segments. -/
lemma pointer_eq_iff {name other : String} :
    pointer name = pointer other ↔
      QualifiedName.segments name = QualifiedName.segments other := by
  rw [← QualifiedName.dotted_eq_iff, pointer, pointer]
  simp

/-- **Asking for the components of two names is the same**, in its answer and in what it leaves
behind, exactly if the names have the same segments. -/
lemma reference_eq_iff {k : Registry} {name other : String} :
    k.reference name = k.reference other ↔
      QualifiedName.segments name = QualifiedName.segments other := by
  constructor
  · intro h
    exact pointer_eq_iff.mp (congrArg Prod.fst h)
  · intro h
    have hdotted := QualifiedName.dotted_eq_iff.mpr h
    rw [Registry.reference, Registry.reference, pointer, pointer, register, register, hdotted]

/-- What calls register is there in the end as it was after any number of them. -/
lemma get?_performAll {calls before : List Call} (h : before <+: calls) {key : String}
    (hkey : key ∈ (Registry.performAll {} before).components.names) :
    (Registry.performAll {} calls).components.get? key =
      (Registry.performAll {} before).components.get? key := by
  obtain ⟨after, rfl⟩ := h
  rw [Registry.performAll_append, Registry.components_performAll, get?_registerAll hkey]

/-- The keys of what calls leave behind are the normal forms of the names of their answers. -/
lemma names_performAll (calls : List Call) :
    (Registry.performAll {} calls).components.names =
      ((Registry.answers {} calls).map fun a => QualifiedName.dotted a.name).eraseDups := by
  have hempty : (({} : Registry).components).names =
      (([] : List String).map QualifiedName.dotted).eraseDups := rfl
  rw [Registry.components_performAll, names_registerAll hempty, List.nil_append, List.map_map]
  rfl

/-- A key is registered as it is, and nothing new with it. -/
lemma reference_dotted (k : Registry) (name : String)
    (h : QualifiedName.dotted name ∈ k.components.names) :
    (k.reference (QualifiedName.dotted name)).2 = k := by
  rw [Registry.reference, register, QualifiedName.dotted_dotted,
    if_pos (Listing.has_iff_mem_names.mpr h)]

/-! ### What calls leave behind -/

/-- **Components serve a row of calls.** Every answer leads to a component that is there, and two
answers to the same one exactly if their names have the same segments. The keys are those to which
the answers lead, in the order in which they first occur. A key that is asked for as a name leads to
itself, and where it is there already nothing changes. What was there after some of the calls is
there in the end as it was. -/
structure Serve (components : Components) (calls : List Call) : Prop where
  leads : ∀ a ∈ Registry.answers {} calls, ∃ key ∈ components.names,
    a.schema = .reference {} ("#/components/schemas/" ++ key)
  keys : ∃ keys : List String, components.names = keys.eraseDups ∧
    (Registry.answers {} calls).map (·.schema) =
      keys.map fun key => .reference {} ("#/components/schemas/" ++ key)
  same : ∀ a ∈ Registry.answers {} calls, ∀ b ∈ Registry.answers {} calls,
    a.schema = b.schema ↔ QualifiedName.segments a.name = QualifiedName.segments b.name
  again : ∀ key ∈ components.names, ∀ k : Registry,
    (k.reference key).1 = .reference {} ("#/components/schemas/" ++ key) ∧
      (key ∈ k.components.names → (k.reference key).2 = k)
  kept : ∀ before, before <+: calls → ∀ key ∈ (Registry.performAll {} before).components.names,
    components.get? key = (Registry.performAll {} before).components.get? key

/-- **What calls leave behind serves them.** -/
theorem serve_performAll (calls : List Call) :
    Serve (Registry.performAll {} calls).components calls := by
  have hnames := names_performAll calls
  constructor
  · intro a ha
    refine ⟨QualifiedName.dotted a.name, ?_, Registry.schema_of_mem_answers ha⟩
    rw [hnames, List.mem_eraseDups]
    exact List.mem_map_of_mem ha
  · refine ⟨_, hnames, ?_⟩
    rw [List.map_map]
    exact List.map_congr_left fun a ha => Registry.schema_of_mem_answers ha
  · intro a ha b hb
    rw [Registry.schema_of_mem_answers ha, Registry.schema_of_mem_answers hb]
    exact pointer_eq_iff
  · intro key hkey k
    rw [hnames, List.mem_eraseDups] at hkey
    obtain ⟨a, -, rfl⟩ := List.mem_map.mp hkey
    refine ⟨?_, reference_dotted k a.name⟩
    rw [Registry.reference, pointer, QualifiedName.dotted_dotted]
  · intro before hbefore key hkey
    exact get?_performAll hbefore hkey

end Components

/-! ### The calls of a run -/

namespace Consultation

variable {α : Type}

/-- The calls of a computation, in order. -/
def calls : Consultation α → Registry → List Call
  | done _, _ => []
  | failed _, _ => []
  | reference name next, k =>
    .reference name :: (next (k.reference name).1).calls (k.reference name).2
  | resolve className name next, k =>
    .resolve className name ::
      match k.resolve className name with
      | (.ok schema, k) => (next schema).calls k
      | (.error _, _) => []
  | attempt className name next, k =>
    .resolve className name ::
      (next (k.resolve className name).1).calls (k.resolve className name).2
  | look next, k => (next k).calls k

/-- **The registry behind a computation is what its calls leave behind.** -/
lemma run_snd (c : Consultation α) (k : Registry) : (c.run k).2 = k.performAll (c.calls k) := by
  induction c generalizing k with
  | done result => rfl
  | failed failure => rfl
  | reference name next ih => exact ih _ _
  | resolve className name next ih =>
      rw [run, calls]
      cases hanswer : k.resolve className name with
      | mk answer after =>
          have hafter : k.perform (.resolve className name) = after := by
            rw [Registry.perform, hanswer]
          cases answer with
          | error failure => exact hafter.symm
          | ok schema =>
              simp only [Registry.performAll, List.foldl_cons, hafter]
              exact ih schema after
  | attempt className name next ih => exact ih _ _
  | look next ih => exact ih k k

end Consultation

namespace Generator

variable {g : Generator}

/-- The calls of a run over routes: the class of each is registered, and then the host asks. -/
def calls (g : Generator) : List Route → Registry → List Call
  | [], _ => []
  | r :: rest, k =>
    match r.endpoint? with
    | none => g.calls rest k
    | some e =>
      let asked := .register e.classInfo :: (g.responses e).calls (k.register e.classInfo)
      asked ++ g.calls rest (k.performAll asked)

/-- **The registry behind a run is what its calls leave behind.** -/
lemma Run.performAll_calls {k k' : Registry} {routes : List Route}
    {rows : List (String × Operation)} (h : g.Run k routes rows k') :
    k' = k.performAll (g.calls routes k) := by
  induction h with
  | nil k => rfl
  | skip hclass _ ih =>
      rw [calls, Route.endpoint?_eq_none_iff.mpr hclass]
      exact ih
  | @step k k₁ _ r _ _ _ hrow _ ih =>
      obtain ⟨e, method, outline, responses, he, -, -, hrun, -, -⟩ := exists_of_resolve hrow
      have hasked : k.performAll
          (.register e.classInfo :: (g.responses e).calls (k.register e.classInfo)) = k₁ := by
        have hstep := Consultation.run_snd (g.responses e) (k.register e.classInfo)
        rw [hrun] at hstep
        exact hstep.symm
      simp only [calls, he]
      rw [Registry.performAll_append, hasked]
      exact ih

end Generator

/-! ### Components as a part of a document -/

/-- The part of a value that stands under a row of field names. -/
def Value.part? : List String → Value → Option Value
  | [], v => some v
  | name :: rest, .map entries => (field? name entries).bind (part? rest)
  | _ :: _, _ => none

/-- The part of a record under a row of names is a part of the field of the first. -/
lemma Value.part?_record (fields : Listing Value) (name : String) (rest : List String) :
    (record fields).part? (name :: rest) = (fields.get? name).bind (part? rest) := by
  rw [record, part?, field?_record]

/-- The entries of a listing whose values are changed one by one. -/
lemma Listing.get?_map {α β : Type} (f : α → β) (entries : Listing α) (name : String) :
    Listing.get? (entries.map fun entry => (entry.1, f entry.2)) name =
      (entries.get? name).map f := by
  induction entries with
  | nil => rfl
  | cons entry rest ih =>
      rw [List.map_cons, get?, get?, ih]
      split <;> rfl

/-- **A component stands in the tree of its document** under its key. -/
lemma Document.part?_tree {d : Document} {key : String} {schema : Schema}
    (h : d.components.get? key = some schema) :
    d.tree.part? ["components", "schemas", key] = some schema.tree := by
  have hne : d.components ≠ [] := by
    intro hnil
    rw [hnil] at h
    cases h
  have hcomponents : d.tree.part? ["components", "schemas", key] =
      (Value.record [("schemas", .record (Schema.trees d.components))]).part? ["schemas", key] := by
    rw [tree, Value.part?_record]
    simp [Listing.get?, hne]
  have hkey : Listing.get? (Schema.trees d.components) key = some schema.tree := by
    rw [Schema.trees_eq_map, Listing.get?_map, h]
    rfl
  rw [hcomponents, Value.part?_record, Listing.get?, if_pos rfl, Option.bind_some,
    Value.part?_record, hkey]
  rfl

namespace Generator

/-- **Components never dangle, never split and never merge wrongly.** Whatever calls are made, what
they leave behind serves them. So does the document of a generation without a last change, whatever
the host asks for: its components are what the calls of its run leave behind, and each of them
stands under its key in the tree of the document. -/
theorem generate_serves :
    (∀ calls, Components.Serve (Registry.performAll {} calls).components calls) ∧
    ∀ g : Generator, g.transform = (fun d => .ok (some d)) → ∀ routes out,
      g.generate routes = .ok out →
        ∃ d, out.document = some d ∧
          d.components =
            (Registry.performAll {} (g.calls (routes.filter g.keeps) {})).components ∧
          Components.Serve d.components (g.calls (routes.filter g.keeps) {}) ∧
          ∀ key ∈ d.components.names, ∃ schema, d.components.get? key = some schema ∧
            d.tree.part? ["components", "schemas", key] = some schema.tree := by
  refine ⟨Components.serve_performAll, fun g ht routes out h => ?_⟩
  obtain ⟨rows, -, hrun, htransform⟩ := exists_run_of_generate h
  rw [ht] at htransform
  have hcomponents := congrArg Registry.components hrun.performAll_calls
  have hserve := Components.serve_performAll (g.calls (routes.filter g.keeps) {})
  rw [← hcomponents] at hserve
  refine ⟨_, (Except.ok.inj htransform).symm, hcomponents, hserve, fun key hkey => ?_⟩
  cases hget : Listing.get? out.registry.components key with
  | none => exact absurd hkey (Listing.get?_eq_none_iff.mp hget)
  | some schema => exact ⟨schema, rfl, Document.part?_tree hget⟩

/-- A host that asks for one component by its full name, by an alias inside the class and inside an
unknown class, and for another one by a name with empty segments. -/
def inquisitive : Generator where
  filter := some fun _ => .ok true
  responses e :=
    .reference "App\\Models\\User" fun _ =>
      .attempt "Nowhere" "User" fun _ =>
        .resolve e.classInfo.name "User" fun _ =>
          .reference "..App\\Models..Post." fun _ => .done []

/-- Routes to two methods of a controller that imports the model under an alias. -/
def modelRoutes : List Route :=
  ["api/users", "api/posts"].map fun uri =>
    { methods := ["GET"], uri, handler := some {
        classInfo := some
          { name := "App\\UserController", imports := [("User", "App\\Models\\User")] }
        method := some "index" } }

/-- **Asking again**: two routes that ask for two components under three names each have these two
components in their document, and the names that lead to the first are those with its segments. -/
theorem modelRoutes_serve :
    ∃ out d, inquisitive.generate modelRoutes = .ok out ∧ out.document = some d ∧
      d.components.names = ["App.Models.User", "App.Models.Post"] ∧
      (∀ a ∈ Registry.answers {} (inquisitive.calls modelRoutes {}),
        a.schema = .reference {} "#/components/schemas/App.Models.User" ↔
          QualifiedName.segments a.name = ["App", "Models", "User"]) ∧
      ∃ schema, d.tree.part? ["components", "schemas", "App.Models.Post"] = some schema := by
  obtain ⟨out, hout⟩ : ∃ out, inquisitive.generate modelRoutes = .ok out := by
    have hok : (inquisitive.generate modelRoutes).toOption.isSome = true := by decide +kernel
    cases hgenerate : inquisitive.generate modelRoutes with
    | error failure => rw [hgenerate] at hok; cases hok
    | ok out => exact ⟨out, rfl⟩
  obtain ⟨d, hdocument, hcomponents, hserve, htree⟩ := generate_serves.2 inquisitive rfl _ _ hout
  have hkeeps : modelRoutes.filter inquisitive.keeps = modelRoutes := by rfl
  rw [hkeeps] at hcomponents hserve
  have hnames : d.components.names = ["App.Models.User", "App.Models.Post"] := by
    rw [hcomponents]
    decide +kernel
  obtain ⟨schema, -, hpart⟩ := htree "App.Models.Post" (by rw [hnames]; decide)
  refine ⟨out, d, hout, hdocument, hnames, fun a ha => ?_, _, hpart⟩
  -- the host asks for the first component first of all
  have hfirst : ∃ b ∈ Registry.answers {} (inquisitive.calls modelRoutes {}),
      b.schema = .reference {} "#/components/schemas/App.Models.User" ∧
        QualifiedName.segments b.name = ["App", "Models", "User"] :=
    ⟨⟨"App\\Models\\User", Components.pointer "App\\Models\\User"⟩, List.mem_cons_self, rfl,
      by decide +kernel⟩
  obtain ⟨b, hb, hschema, hsegments⟩ := hfirst
  rw [← hschema, ← hsegments]
  exact hserve.same a ha b hb

end Generator

end RouteAtlas
