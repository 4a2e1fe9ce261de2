/-
Runs over the routes of an application.

* `Generator.keeps`: whether a route is documented; `Generator.eq_filter_of_select`,
  `Generator.select_eq_filter`: selection is a filter that may fail, route by route.
* `Generator.exists_of_resolve`: what one step does, with a route that has an operation.
* `Generator.Run`: a run as a relation between routes, rows of operations and registries;
  `Generator.run_iff`: it is the run of `Generator.resolveAll`. Routes have one run, and runs over
  two rows of routes come apart.
* `Generator.exists_run_of_generate`: a successful generation is a run over the selected routes.
* `Generator.Unhooked`: a run without functions of a host that add responses or change results.
* `Generator.Ends`: why a run ends with a class-based route: it declares no method, or there is no
  text for the warning about its rules; `Generator.untold?`: the cause for which there is none.
* `Generator.resolveAll_unhooked`, `Generator.generate_unhooked`: **such a run in closed form**. It
  fails as the first route that ends it, and else has one row for each class-based route.
-/
import Mathlib.Data.List.Basic
import RouteAtlas.Generation
import RouteAtlas.Proofs.Request

namespace RouteAtlas

/-! ### Routes with an endpoint -/

namespace Route

/-- A route without an endpoint is not class-based, and conversely. -/
lemma endpoint?_eq_none_iff {r : Route} : r.endpoint? = none ↔ r.isClassBased = false := by
  rw [← isSome_endpoint?]
  cases r.endpoint? <;> simp

/-- A class-based route has an endpoint. -/
lemma exists_endpoint? {r : Route} (h : r.isClassBased = true) : ∃ e, r.endpoint? = some e := by
  rw [← isSome_endpoint?] at h
  exact Option.isSome_iff_exists.mp h

/-- A route with an endpoint is class-based. -/
lemma isClassBased_of_endpoint? {r : Route} {e : Endpoint} (h : r.endpoint? = some e) :
    r.isClassBased = true := by
  rw [← isSome_endpoint?, h]
  rfl

/-- What an endpoint has is what its route has. -/
lemma of_endpoint? {r : Route} {e : Endpoint} (h : r.endpoint? = some e) :
    e.route = r ∧ r.handler = some e.handler ∧ e.handler.classInfo = some e.classInfo := by
  rw [endpoint?] at h
  split at h
  · cases h
  · next handler hhandler =>
    split at h
    · cases h
    · next c hclass =>
      split at h
      · cases h
        exact ⟨rfl, hhandler, hclass⟩
      · cases h

end Route

namespace Generator

variable {g : Generator}

/-! ### Selection -/

/-- Whether a route is documented. -/
def keeps (g : Generator) (r : Route) : Bool :=
  !g.servesDocs r &&
    match g.admits r with
    | .ok isAdmitted => isAdmitted
    | .error _ => false

/-- A route that serves documentation is passed by. -/
lemma select_cons_of_servesDocs {r : Route} (h : g.servesDocs r = true) (rest : List Route) :
    g.select (r :: rest) = g.select rest := by
  rw [select, if_pos h]

/-- Selection ends with a filter that fails. -/
lemma select_cons_of_error {r : Route} {failure : Failure} (h : g.servesDocs r = false)
    (ha : g.admits r = .error failure) (rest : List Route) :
    g.select (r :: rest) = .error failure := by
  rw [select, if_neg (by simp [h]), ha]
  rfl

/-- A route on which the filter answers is kept or passed by. -/
lemma select_cons_of_ok {r : Route} {isAdmitted : Bool} (h : g.servesDocs r = false)
    (ha : g.admits r = .ok isAdmitted) (rest : List Route) :
    g.select (r :: rest) =
      (g.select rest).map fun selected => if g.keeps r then r :: selected else selected := by
  have hkeeps : g.keeps r = isAdmitted := by simp [keeps, h, ha]
  rw [select, if_neg (by simp [h]), ha, hkeeps]
  cases g.select rest <;> rfl

/-- Selection is a filter, if it succeeds. -/
lemma eq_filter_of_select {routes selected : List Route} (h : g.select routes = .ok selected) :
    selected = routes.filter g.keeps := by
  induction routes generalizing selected with
  | nil =>
      cases h
      rfl
  | cons r rest ih =>
      cases hdocs : g.servesDocs r with
      | true =>
          rw [select_cons_of_servesDocs hdocs] at h
          rw [List.filter_cons_of_neg (by simp [keeps, hdocs]), ih h]
      | false =>
          cases hadmits : g.admits r with
          | error failure =>
              rw [select_cons_of_error hdocs hadmits] at h
              cases h
          | ok isAdmitted =>
              rw [select_cons_of_ok hdocs hadmits] at h
              cases hrest : g.select rest with
              | error failure => rw [hrest] at h; cases h
              | ok others =>
                  rw [hrest] at h
                  cases h
                  rw [List.filter_cons, ih hrest]

/-- Selection succeeds if the filter answers on every route. -/
lemma select_eq_filter {routes : List Route} (h : ∀ r ∈ routes, ∃ b, g.admits r = .ok b) :
    g.select routes = .ok (routes.filter g.keeps) := by
  induction routes with
  | nil => rfl
  | cons r rest ih =>
      have hrest := ih fun other hother => h other (List.mem_cons_of_mem _ hother)
      cases hdocs : g.servesDocs r with
      | true =>
          rw [select_cons_of_servesDocs hdocs, hrest,
            List.filter_cons_of_neg (by simp [keeps, hdocs])]
      | false =>
          obtain ⟨isAdmitted, hadmits⟩ := h r List.mem_cons_self
          rw [select_cons_of_ok hdocs hadmits, hrest, List.filter_cons]
          rfl

/-! ### Runs -/

/-- A route that is not class-based is passed by. -/
lemma resolve_of_none {r : Route} (h : r.endpoint? = none) (k : Registry) :
    g.resolve r k = (.ok none, k) := by
  rw [resolve, h]

/-- **What one step does** with a route that has an operation: its class is registered, the host
adds responses, and last the host adjusts the whole. -/
lemma exists_of_resolve {k k' : Registry} {r : Route} {row : String × Operation}
    (h : g.resolve r k = (.ok (some row), k')) :
    ∃ e method outline responses, r.endpoint? = some e ∧ r.method = .ok method ∧
      g.outline e method = .ok outline ∧
      (g.responses e).run (k.register e.classInfo) = (.ok responses, k') ∧
      row.1 = g.path e ∧ g.adjust { outline with responses } e = .ok row.2 := by
  rw [resolve] at h
  cases he : r.endpoint? with
  | none => rw [he] at h; cases h
  | some e =>
      have hroute := Route.route_of_endpoint? he
      rw [he] at h
      simp only [operation, hroute] at h
      cases hm : r.method with
      | error failure => rw [hm] at h; cases h
      | ok method =>
          simp only [hm] at h
          cases ho : g.outline e method with
          | error failure => rw [ho] at h; cases h
          | ok outline =>
              rw [ho] at h
              cases hr : (g.responses e).run (k.register e.classInfo) with
              | mk answer after =>
                  simp only [hr] at h
                  cases answer with
                  | error failure => cases h
                  | ok responses =>
                      cases ha : g.adjust { outline with responses } e with
                      | error failure => simp only [ha] at h; cases h
                      | ok op =>
                          simp only [ha] at h
                          cases h
                          exact ⟨e, method, outline, responses, rfl, rfl, ho, hr, rfl, ha⟩

/-- **A run**: a route with an operation gives one row, in the order of the routes, and any other
route gives none. -/
inductive Run (g : Generator) :
    Registry → List Route → List (String × Operation) → Registry → Prop
  | nil (k : Registry) : Run g k [] [] k
  | skip {k k' : Registry} {r : Route} {routes : List Route} {rows : List (String × Operation)} :
      r.isClassBased = false → Run g k routes rows k' → Run g k (r :: routes) rows k'
  | step {k k₁ k' : Registry} {r : Route} {routes : List Route} {row : String × Operation}
      {rows : List (String × Operation)} :
      g.resolve r k = (.ok (some row), k₁) → Run g k₁ routes rows k' →
      Run g k (r :: routes) (row :: rows) k'

/-- **The relation is the recursion**: it holds of exactly the rows that are computed. -/
theorem run_iff {k k' : Registry} {routes : List Route} {rows : List (String × Operation)} :
    g.Run k routes rows k' ↔ g.resolveAll routes k = .ok (rows, k') := by
  constructor
  · intro h
    induction h with
    | nil k => rfl
    | skip hclass _ ih =>
        rw [resolveAll, resolve_of_none (Route.endpoint?_eq_none_iff.mpr hclass)]
        exact ih
    | step hrow _ ih =>
        simp only [resolveAll, hrow, ih]
        rfl
  · intro h
    induction routes generalizing k rows with
    | nil =>
        cases h
        exact Run.nil _
    | cons r rest ih =>
        rw [resolveAll] at h
        split at h
        · cases h
        · next k₁ hnone =>
          cases hclass : r.isClassBased with
          | true =>
              obtain ⟨e, he⟩ := Route.exists_endpoint? hclass
              rw [resolve, he] at hnone
              simp only at hnone
              split at hnone <;> cases hnone
          | false =>
              rw [resolve_of_none (Route.endpoint?_eq_none_iff.mpr hclass)] at hnone
              cases hnone
              exact Run.skip hclass (ih h)
        · next row k₁ hrow =>
          cases hrest : g.resolveAll rest k₁ with
          | error failure => rw [hrest] at h; cases h
          | ok result =>
              obtain ⟨others, last⟩ := result
              rw [hrest] at h
              cases h
              exact Run.step hrow (ih hrest)

namespace Run

variable {k k' k'' : Registry} {routes : List Route} {rows rows' : List (String × Operation)}

/-- Routes have one run. -/
lemma unique (h : g.Run k routes rows k') (h' : g.Run k routes rows' k'') :
    rows' = rows ∧ k'' = k' := by
  have hresult := (run_iff.mp h').symm.trans (run_iff.mp h)
  cases hresult
  exact ⟨rfl, rfl⟩

/-- A run over two rows of routes is a run over the first and then one over the second. -/
lemma of_append {first second : List Route} (h : g.Run k (first ++ second) rows k') :
    ∃ rows₁ k₁ rows₂, rows = rows₁ ++ rows₂ ∧ g.Run k first rows₁ k₁ ∧
      g.Run k₁ second rows₂ k' := by
  induction first generalizing k rows with
  | nil => exact ⟨[], k, rows, rfl, Run.nil k, h⟩
  | cons r first ih =>
      cases h with
      | skip hclass h =>
          obtain ⟨rows₁, k₁, rows₂, hrows, hfirst, hsecond⟩ := ih h
          exact ⟨rows₁, k₁, rows₂, hrows, Run.skip hclass hfirst, hsecond⟩
      | step hrow h =>
          obtain ⟨rows₁, k₁, rows₂, rfl, hfirst, hsecond⟩ := ih h
          exact ⟨_ :: rows₁, k₁, rows₂, rfl, Run.step hrow hfirst, hsecond⟩

/-- A run starts with the row of a class-based route. -/
lemma of_cons {r : Route} (hclass : r.isClassBased = true) (h : g.Run k (r :: routes) rows k') :
    ∃ row k₁ others, rows = row :: others ∧ g.resolve r k = (.ok (some row), k₁) ∧
      g.Run k₁ routes others k' := by
  cases h with
  | skip hnone _ => rw [hclass] at hnone; cases hnone
  | step hrow h => exact ⟨_, _, _, rfl, hrow, h⟩

end Run

/-- A successful generation is a run over the selected routes, whose rows are entered into the empty
document. -/
lemma exists_run_of_generate {routes : List Route} {out : Outcome}
    (h : g.generate routes = .ok out) :
    ∃ rows, g.select routes = .ok (routes.filter g.keeps) ∧
      g.Run {} (routes.filter g.keeps) rows out.registry ∧
      g.transform { g.settings.document.addAll rows with components := out.registry.components } =
        .ok out.document := by
  rw [generate] at h
  cases hselect : g.select routes with
  | error failure => rw [hselect] at h; cases h
  | ok selected =>
      cases hall : g.resolveAll selected {} with
      | error failure => simp only [hselect, bind, Except.bind, hall] at h; cases h
      | ok result =>
          obtain ⟨rows, k⟩ := result
          simp only [hselect, bind, Except.bind, hall] at h
          split at h
          · cases h
          · next document htransform =>
            cases h
            rw [eq_filter_of_select hselect] at hall ⊢
            exact ⟨rows, rfl, run_iff.mpr hall, htransform⟩

/-! ### Runs without functions of a host -/

/-- **A run without functions of a host** that add responses, change an operation or change the
document. -/
structure Unhooked (g : Generator) : Prop where
  responses : g.responses = fun _ => .done []
  adjust : g.adjust = fun op _ => .ok op
  transform : g.transform = fun d => .ok (some d)

/-- The row of a route to which nothing is added: none if it is not class-based. -/
def rowOf (g : Generator) (r : Route) : Except Failure (Option (String × Operation)) :=
  match r.endpoint? with
  | none => .ok none
  | some e => do
    let method ← r.method
    let op ← g.outline e method
    .ok (some (g.path e, op))

/-- The row of a route, none if it has none or fails. -/
def rowOf? (g : Generator) (r : Route) : Option (String × Operation) :=
  (g.rowOf r).toOption.join

/-- The failure of a route, none if it does not fail. -/
def obstacle? (g : Generator) (r : Route) : Option Failure :=
  match g.rowOf r with
  | .ok _ => none
  | .error failure => some failure

/-- The registry with the classes of routes. -/
def registerAll (routes : List Route) (k : Registry) : Registry :=
  (routes.filterMap Route.endpoint?).foldl (fun k e => k.register e.classInfo) k

/-- **A step without functions of a host**: the route has its own row, or its own failure. -/
lemma resolve_unhooked (hg : g.Unhooked) (r : Route) (k : Registry) :
    g.resolve r k = (g.rowOf r, registerAll [r] k) := by
  cases he : r.endpoint? with
  | none => simp [resolve, rowOf, registerAll, he]
  | some e =>
      have hregistry : registerAll [r] k = k.register e.classInfo := by simp [registerAll, he]
      simp only [hregistry, resolve, rowOf, he, operation, Route.route_of_endpoint? he]
      cases r.method with
      | error failure => rfl
      | ok method =>
          cases houtline : g.outline e method with
          | error failure => simp [bind, Except.bind, houtline]
          | ok op =>
              have hnone : op.responses = [] := by
                obtain ⟨description, -, rfl⟩ := (outline_eq_ok_iff g e method).mp houtline
                rfl
              have hplain : { op with responses := [] } = op := by rw [← hnone]
              simp [bind, Except.bind, houtline, hg.responses, hg.adjust, Consultation.run, hplain]

/-- The row of a class-based route is its path and its outline. -/
lemma of_resolve_unhooked (hg : g.Unhooked) {r : Route} {path : String} {op : Operation}
    {k k' : Registry} (h : g.resolve r k = (.ok (some (path, op)), k')) :
    ∃ e method, r.endpoint? = some e ∧ r.method = .ok method ∧ path = g.path e ∧
      g.outline e method = .ok op ∧ k' = k.register e.classInfo := by
  obtain ⟨e, method, outline, -, he, hm, houtline, -, -, -⟩ := exists_of_resolve h
  rw [resolve_unhooked hg] at h
  have hrow : g.rowOf r = .ok (some (g.path e, outline)) := by
    simp only [rowOf, he, hm, houtline, bind, Except.bind]
  rw [hrow] at h
  cases h
  exact ⟨e, method, he, hm, rfl, houtline, by simp [registerAll, he]⟩

/-- **A run without functions of a host in closed form**: it fails as the first of its routes that
fails by itself, and else has the rows of all class-based routes. -/
theorem resolveAll_unhooked (hg : g.Unhooked) (routes : List Route) (k : Registry) :
    g.resolveAll routes k =
      match routes.findSome? g.obstacle? with
      | some failure => .error failure
      | none => .ok (routes.filterMap g.rowOf?, registerAll routes k) := by
  induction routes generalizing k with
  | nil => rfl
  | cons r rest ih =>
      have hregistry : registerAll (r :: rest) k = registerAll rest (registerAll [r] k) := by
        rw [← List.singleton_append, registerAll, List.filterMap_append, List.foldl_append]
        rfl
      rw [resolveAll, resolve_unhooked hg, List.findSome?_cons, obstacle?, List.filterMap_cons, rowOf?,
        hregistry]
      obtain failure | _ | row := g.rowOf r
      · rfl
      · exact ih _
      · simp only [ih]
        cases rest.findSome? g.obstacle? <;> rfl

/-- The outcome of a run without functions of a host over selected routes. -/
def outcome (g : Generator) (selected : List Route) : Outcome :=
  ⟨some { g.settings.document.addAll (selected.filterMap g.rowOf?) with
      components := (registerAll selected {}).components }, registerAll selected {}⟩

/-- **A generation without functions of a host in closed form.** -/
theorem generate_unhooked (hg : g.Unhooked) (routes : List Route) :
    g.generate routes =
      match g.select routes with
      | .error failure => .error failure
      | .ok selected =>
        match selected.findSome? g.obstacle? with
        | some failure => .error failure
        | none => .ok (g.outcome selected) := by
  rw [generate]
  cases g.select routes with
  | error failure => rfl
  | ok selected =>
      simp only [bind, Except.bind, resolveAll_unhooked hg, hg.transform]
      cases selected.findSome? g.obstacle? <;> rfl

/-! ### Why a run ends -/

/-- **Why a run ends** with a class-based route: it declares no method, or its rules fail and there is
no text for the warning. -/
inductive Ends (g : Generator) (r : Route) : Failure → Prop
  | noMethod : r.isClassBased = true → r.methods = [] → g.Ends r (.noMethod r.uri)
  | untold {failure cause : Failure} : r.isClassBased = true → r.methods ≠ [] →
      Request.collect g.extractors r = .error failure → failure.text g.wording = .error cause →
      g.Ends r cause

/-- A route ends a run exactly if it is class-based and declares no method, or has rules that fail and
have no text for it. -/
lemma exists_ends_iff {r : Route} :
    (∃ failure, g.Ends r failure) ↔ r.isClassBased = true ∧
      (r.methods = [] ∨ ∃ failure cause, Request.collect g.extractors r = .error failure ∧
        failure.text g.wording = .error cause) := by
  constructor
  · rintro ⟨failure, hends⟩
    cases hends with
    | noMethod hclass hmethods => exact ⟨hclass, Or.inl hmethods⟩
    | untold hclass _ hcollect htext => exact ⟨hclass, Or.inr ⟨_, _, hcollect, htext⟩⟩
  · rintro ⟨hclass, hmethods | ⟨failure, cause, hcollect, htext⟩⟩
    · exact ⟨_, .noMethod hclass hmethods⟩
    · by_cases hmethods : r.methods = []
      · exact ⟨_, .noMethod hclass hmethods⟩
      · exact ⟨_, .untold hclass hmethods hcollect htext⟩

/-- The cause for which there is no text for the failure of the rules of a route, if there is none. -/
def untold? (g : Generator) (r : Route) : Option Failure :=
  match Request.collect g.extractors r with
  | .ok _ => none
  | .error failure =>
    match failure.text g.wording with
    | .ok _ => none
    | .error cause => some cause

/-- There is a cause exactly if the rules fail and have no text for it. -/
lemma untold?_eq_some_iff {r : Route} {cause : Failure} :
    g.untold? r = some cause ↔
      ∃ failure, Request.collect g.extractors r = .error failure ∧
        failure.text g.wording = .error cause := by
  rw [untold?]
  cases Request.collect g.extractors r with
  | ok fields => simp
  | error failure => cases htext : failure.text g.wording <;> simp [htext]

/-- There is no description exactly if there is no text for the warning. -/
lemma describe_eq_error_iff (e : Endpoint) {cause : Failure} :
    g.describe e = .error cause ↔ g.untold? e.route = some cause := by
  rw [describe, Request.warning?, untold?]
  cases Request.collect g.extractors e.route with
  | ok fields => simp [Except.map]
  | error failure =>
      cases htext : failure.text g.wording <;> simp [Request.warning, Except.map, htext]

/-- A route that is not class-based does not fail by itself. -/
lemma obstacle?_of_not_isClassBased {r : Route} (hclass : r.isClassBased = false) :
    g.obstacle? r = none := by
  simp [obstacle?, rowOf, Route.endpoint?_eq_none_iff.mpr hclass]

/-- A class-based route without a method fails by itself with its name. -/
lemma obstacle?_of_nil {r : Route} (hclass : r.isClassBased = true) (hmethods : r.methods = []) :
    g.obstacle? r = some (.noMethod r.uri) := by
  obtain ⟨e, he⟩ := Route.exists_endpoint? hclass
  have hm : r.method = .error (.noMethod r.uri) := by simp [Route.method, hmethods]
  simp [obstacle?, rowOf, he, hm, bind, Except.bind]

/-- A class-based route with a method fails by itself as there is no text for its rules. -/
lemma obstacle?_of_methods {r : Route} (hclass : r.isClassBased = true) (hmethods : r.methods ≠ []) :
    g.obstacle? r = g.untold? r := by
  obtain ⟨e, he⟩ := Route.exists_endpoint? hclass
  obtain ⟨first, others, hr⟩ := List.exists_cons_of_ne_nil hmethods
  have hm : r.method = .ok (Text.lowerString first) := by simp [Route.method, hr]
  refine Option.ext fun cause => ?_
  rw [← Route.route_of_endpoint? he, ← describe_eq_error_iff, Route.route_of_endpoint? he]
  simp only [obstacle?, rowOf, he, hm, bind, Except.bind, outline_eq]
  cases g.describe e <;> simp [Except.map]

/-- **A route fails by itself exactly if it ends a run.** -/
lemma obstacle?_eq_some_iff {r : Route} {failure : Failure} :
    g.obstacle? r = some failure ↔ g.Ends r failure := by
  constructor
  · intro h
    cases hclass : r.isClassBased with
    | false =>
        rw [obstacle?_of_not_isClassBased hclass] at h
        cases h
    | true =>
        by_cases hmethods : r.methods = []
        · rw [obstacle?_of_nil hclass hmethods] at h
          cases h
          exact .noMethod hclass hmethods
        · rw [obstacle?_of_methods hclass hmethods, untold?_eq_some_iff] at h
          obtain ⟨cause, hcollect, htext⟩ := h
          exact .untold hclass hmethods hcollect htext
  · intro h
    cases h with
    | noMethod hclass hmethods => exact obstacle?_of_nil hclass hmethods
    | untold hclass hmethods hcollect htext =>
        rw [obstacle?_of_methods hclass hmethods]
        exact untold?_eq_some_iff.mpr ⟨_, hcollect, htext⟩

/-- A route does not fail by itself exactly if it does not end a run. -/
lemma obstacle?_eq_none_iff {r : Route} : g.obstacle? r = none ↔ ∀ failure, ¬g.Ends r failure := by
  rw [Option.eq_none_iff_forall_ne_some]
  exact forall_congr' fun failure => not_congr obstacle?_eq_some_iff

/-- **A row of routes fails as the first of them that ends a run.** -/
lemma findSome?_obstacle?_eq_some_iff {routes : List Route} {failure : Failure} :
    routes.findSome? g.obstacle? = some failure ↔
      ∃ before r after, routes = before ++ r :: after ∧
        (∀ other ∈ before, ∀ cause, ¬g.Ends other cause) ∧ g.Ends r failure := by
  simp only [List.findSome?_eq_some_iff, obstacle?_eq_some_iff, obstacle?_eq_none_iff]
  constructor
  · rintro ⟨before, r, after, hroutes, hends, hbefore⟩
    exact ⟨before, r, after, hroutes, hbefore, hends⟩
  · rintro ⟨before, r, after, hroutes, hbefore, hends⟩
    exact ⟨before, r, after, hroutes, hends, hbefore⟩

/-- A generation over selected routes fails as they do. -/
lemma generate_eq_error_iff (hg : g.Unhooked) {routes selected : List Route}
    (hselect : g.select routes = .ok selected) {failure : Failure} :
    g.generate routes = .error failure ↔ selected.findSome? g.obstacle? = some failure := by
  rw [generate_unhooked hg, hselect]
  dsimp only
  cases hfind : selected.findSome? g.obstacle? <;> simp

end Generator

end RouteAtlas
