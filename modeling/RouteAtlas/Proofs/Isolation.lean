/-
What the rules of one route can change.

Two runs are compared whose routes differ in the rules of one of them. The rules are erased: what
stays the same when they are erased is the same in both runs. Erasing does not change which routes
are documented, and of an operation it changes the fields and the description only. It changes why a
run fails in one case: the rules fail, and there is no text for the warning.

* `Route.withoutRules`: a route whose rules are erased; two routes differ in their rules at most if
  they are equal then.
* `Generator.Reaches`: a run reaches the rules of a route; `Generator.generate_error_iff_iff`: **when
  two runs fail alike**.
* `Operation.SameButFields`, `Generator.sketch_sameButFields`: two operations that differ in their
  fields and their descriptions at most.
* `Document.SameKeys`: two documents with the same paths and methods.
* `Generator.resolve_sameButRules`, `Generator.differAt_of_run`: a step of both runs, and the runs.
* `Generator.generate_isolated`: **rules change nothing but the operation of their route**, unless
  their failure has no text.
-/
import RouteAtlas.Proofs.Assembly
import RouteAtlas.Proofs.Degradation

namespace RouteAtlas

/-! ### Erasing rules -/

/-- A handler whose rules are erased. -/
def Handler.withoutRules (h : Handler) : Handler :=
  { h with formRequest := none, validateCall := none }

/-- A route whose rules are erased. -/
def Route.withoutRules (r : Route) : Route :=
  { r with handler := r.handler.map Handler.withoutRules }

/-- An endpoint whose rules are erased. -/
def Endpoint.withoutRules (e : Endpoint) : Endpoint :=
  ⟨e.route.withoutRules, e.handler.withoutRules, e.classInfo⟩

namespace Route

variable (r : Route)

@[simp] lemma endpoint?_withoutRules :
    r.withoutRules.endpoint? = r.endpoint?.map Endpoint.withoutRules := by
  cases hr : r.handler with
  | none => simp [endpoint?, withoutRules, hr]
  | some h =>
      cases hc : h.classInfo with
      | none => simp [endpoint?, withoutRules, Handler.withoutRules, hr, hc]
      | some c =>
          simp only [endpoint?, withoutRules, Handler.withoutRules, hr, hc, Option.map_some]
          split <;> simp [Endpoint.withoutRules, withoutRules, Handler.withoutRules, hr, hc]

@[simp] lemma isClassBased_withoutRules : r.withoutRules.isClassBased = r.isClassBased := by
  rw [← isSome_endpoint?, ← isSome_endpoint?, endpoint?_withoutRules, Option.isSome_map]

/-- Routes that differ in rules at most are class-based alike. -/
lemma isClassBased_eq_of_withoutRules {r r' : Route} (h : r'.withoutRules = r.withoutRules) :
    r'.isClassBased = r.isClassBased := by
  rw [← r'.isClassBased_withoutRules, h, r.isClassBased_withoutRules]

@[simp] lemma handlerParameters_withoutRules :
    r.withoutRules.handlerParameters = r.handlerParameters := by
  cases h : r.handler <;> simp [handlerParameters, withoutRules, Handler.withoutRules, h]

@[simp] lemma docParams_withoutRules : r.withoutRules.docParams = r.docParams := by
  cases h : r.handler <;> simp [docParams, withoutRules, Handler.withoutRules, h]

end Route

/-- The parameters of a path do not look at rules. -/
@[simp] lemma PathParameters.ofRoute_withoutRules (r : Route) (requestTypes : List String) :
    ofRoute r.withoutRules requestTypes = ofRoute r requestTypes := by
  rw [ofRoute, ofRoute, r.handlerParameters_withoutRules, r.docParams_withoutRules]
  rfl

namespace Generator

variable {g : Generator}

/-! ### Selection and failure -/

/-- A filter that does not look at handlers admits a route whatever its rules are. -/
lemma admits_withoutRules
    (hfilter : ∀ filter, g.filter = some filter →
      ∀ (r : Route) (h : Option Handler), filter { r with handler := h } = filter r) (r : Route) :
    g.admits r.withoutRules = g.admits r := by
  cases hf : g.filter with
  | none => simp only [admits, hf, Route.withoutRules]
  | some filter =>
      simp only [admits, hf]
      exact hfilter filter hf r _

/-- Routes are documented whatever their rules are. -/
lemma keeps_withoutRules (hadmits : ∀ r : Route, g.admits r.withoutRules = g.admits r) (r : Route) :
    g.keeps r.withoutRules = g.keeps r := by
  rw [keeps, keeps, hadmits]
  rfl

/-- Routes that differ in rules at most are documented alike. -/
lemma keeps_eq_of_withoutRules (hadmits : ∀ r : Route, g.admits r.withoutRules = g.admits r)
    {r r' : Route} (h : r'.withoutRules = r.withoutRules) : g.keeps r' = g.keeps r := by
  rw [← keeps_withoutRules hadmits, h, keeps_withoutRules hadmits]

/-- **Erasing rules and selecting commute.** -/
lemma select_withoutRules (hadmits : ∀ r : Route, g.admits r.withoutRules = g.admits r)
    (routes : List Route) :
    g.select (routes.map Route.withoutRules) =
      (g.select routes).map (List.map Route.withoutRules) := by
  induction routes with
  | nil => rfl
  | cons r rest ih =>
      have hnames : g.servesDocs r.withoutRules = g.servesDocs r := rfl
      rw [List.map_cons]
      cases hdocs : g.servesDocs r with
      | true =>
          rw [select_cons_of_servesDocs (hnames.trans hdocs), select_cons_of_servesDocs hdocs, ih]
      | false =>
          cases ha : g.admits r with
          | error failure =>
              rw [select_cons_of_error (hnames.trans hdocs) ((hadmits r).trans ha),
                select_cons_of_error hdocs ha]
              rfl
          | ok isAdmitted =>
              rw [select_cons_of_ok (hnames.trans hdocs) ((hadmits r).trans ha),
                select_cons_of_ok hdocs ha, ih, keeps_withoutRules hadmits]
              cases g.select rest with
              | error failure => rfl
              | ok selected => cases g.keeps r <;> rfl

/-- Routes that differ in rules at most are selected alike. -/
lemma select_error_iff (hadmits : ∀ r : Route, g.admits r.withoutRules = g.admits r)
    {routes routes' : List Route}
    (herased : routes'.map Route.withoutRules = routes.map Route.withoutRules) (failure : Failure) :
    g.select routes' = .error failure ↔ g.select routes = .error failure := by
  have herror : ∀ routes, g.select (routes.map Route.withoutRules) = .error failure ↔
      g.select routes = .error failure := by
    intro routes
    rw [select_withoutRules hadmits]
    cases g.select routes <;> simp [Except.map]
  rw [← herror, herased, herror]

/-- Where routes are selected, so are routes that differ from them in rules at most. -/
lemma exists_select_of_erased (hadmits : ∀ r : Route, g.admits r.withoutRules = g.admits r)
    {routes routes' selected : List Route}
    (herased : routes'.map Route.withoutRules = routes.map Route.withoutRules)
    (h : g.select routes = .ok selected) : ∃ selected', g.select routes' = .ok selected' := by
  cases h' : g.select routes' with
  | error failure =>
      rw [(select_error_iff hadmits herased failure).mp h'] at h
      cases h
  | ok selected' => exact ⟨selected', rfl⟩

/-- The failure of the first documented route of a row that ends a run. -/
def firstFailure (g : Generator) (routes : List Route) : Option Failure :=
  (routes.filter g.keeps).findSome? g.obstacle?

/-- **Why a run fails**, cut at one route: for the first of the routes before it, for itself, or for
the first of the routes behind it. -/
lemma generate_error_cut (hg : g.Unhooked) {before after selected : List Route} {r : Route}
    (hselect : g.select (before ++ r :: after) = .ok selected) (failure : Failure) :
    g.generate (before ++ r :: after) = .error failure ↔
      (g.firstFailure before).or
        ((if g.keeps r then g.obstacle? r else none).or (g.firstFailure after)) = some failure := by
  rw [generate_eq_error_iff hg hselect, eq_filter_of_select hselect, List.filter_append,
    List.findSome?_append, List.filter_cons]
  cases g.keeps r with
  | false => rfl
  | true =>
      rw [if_pos rfl, if_pos rfl, List.findSome?_cons, ← firstFailure, ← firstFailure]
      cases g.obstacle? r <;> rfl

/-- **A run reaches the rules of a route**: routes are selected, this one among them, it declares a
method, and none of the routes before it ends the run. -/
structure Reaches (g : Generator) (before : List Route) (r : Route) (after : List Route) : Prop where
  selects : ∃ selected, g.select (before ++ r :: after) = .ok selected
  keeps : g.keeps r = true
  methods_ne : r.methods ≠ []
  goesOn : ∀ other ∈ before.filter g.keeps, ∀ failure, ¬g.Ends other failure

/-- **Two runs over routes that differ in the rules of one fail alike** exactly if the causes for
which there is no text are the same where the runs reach the rules, or hidden by a failure behind
them. -/
lemma generate_error_iff_iff (hg : g.Unhooked)
    (hadmits : ∀ r : Route, g.admits r.withoutRules = g.admits r) {r r' : Route}
    (hr : r'.withoutRules = r.withoutRules) (hclass : r.isClassBased = true)
    (before after : List Route) :
    (∀ failure, g.generate (before ++ r' :: after) = .error failure ↔
        g.generate (before ++ r :: after) = .error failure) ↔
      (g.Reaches before r after →
        (g.untold? r').or (g.firstFailure after) = (g.untold? r).or (g.firstFailure after)) := by
  have herased : (before ++ r' :: after).map Route.withoutRules =
      (before ++ r :: after).map Route.withoutRules := by
    rw [List.map_append, List.map_append, List.map_cons, List.map_cons, hr]
  have hkeeps := keeps_eq_of_withoutRules hadmits hr
  have hclass' := (Route.isClassBased_eq_of_withoutRules hr).trans hclass
  have hmethods : r'.methods = r.methods := congrArg (fun r => r.methods) hr
  have huri : r'.uri = r.uri := congrArg (fun r => r.uri) hr
  cases hroutes : g.select (before ++ r :: after) with
  | error cause =>
      have hroutes' := (select_error_iff hadmits herased cause).mpr hroutes
      refine iff_of_true (fun failure => ?_) fun hreaches => ?_
      · simp only [generate, hroutes, hroutes', bind, Except.bind]
      · obtain ⟨selected, hselected⟩ := hreaches.selects
        rw [hroutes] at hselected
        cases hselected
  | ok selected =>
      obtain ⟨selected', hroutes'⟩ := exists_select_of_erased hadmits herased hroutes
      simp only [generate_error_cut hg hroutes, generate_error_cut hg hroutes', hkeeps]
      rw [← Option.ext_iff]
      by_cases hreaches : g.Reaches before r after
      · have hbefore : g.firstFailure before = none := List.findSome?_eq_none_iff.mpr
          fun other hother => obstacle?_eq_none_iff.mpr (hreaches.goesOn other hother)
        have hmethods' : r'.methods ≠ [] := by
          rw [hmethods]
          exact hreaches.methods_ne
        rw [hbefore, hreaches.keeps, if_pos rfl, if_pos rfl,
          obstacle?_of_methods hclass hreaches.methods_ne, obstacle?_of_methods hclass' hmethods',
          Option.none_or, Option.none_or]
        exact ⟨fun h _ => h, fun h => h hreaches⟩
      · refine iff_of_true ?_ fun h => absurd h hreaches
        -- what keeps the runs from the rules is the same in both
        cases hbefore : g.firstFailure before with
        | some cause => rfl
        | none =>
            cases hkept : g.keeps r with
            | false => rfl
            | true =>
                have hnil : r.methods = [] := by
                  by_contra hne
                  refine hreaches ⟨⟨selected, hroutes⟩, hkept, hne, fun other hother => ?_⟩
                  exact obstacle?_eq_none_iff.mp (List.findSome?_eq_none_iff.mp hbefore other hother)
                rw [obstacle?_of_nil hclass hnil, obstacle?_of_nil hclass' (hmethods.trans hnil), huri]

end Generator

/-! ### The operation of one route -/

/-- **Two operations differ in their fields at most**, and in their descriptions: fields are
parameters of the query if the method is one of a query, and else the body. -/
structure Operation.SameButFields (isQuery : Bool) (op op' : Operation) : Prop where
  method_eq : op'.method = op.method
  tags_eq : op'.tags = op.tags
  summary_eq : op'.summary = op.summary
  responses_eq : op'.responses = op.responses
  located_eq : Parameter.located .path op'.parameters = Parameter.located .path op.parameters
  parameters_eq : isQuery = false → op'.parameters = op.parameters
  requestBody_eq : isQuery = true → op'.requestBody = op.requestBody

namespace Generator

variable {g : Generator}

/-- The description of a route: the documented one if its rules can be read, and else the documented
one, if it says something, with a blank line and the warning of the failure below it. -/
def Describes (g : Generator) (r : Route) (documented description : String) : Prop :=
  (∃ fields, Request.collect g.extractors r = .ok fields ∧ description = documented) ∨
    ∃ failure warning, Request.collect g.extractors r = .error failure ∧
      Request.warning g.wording failure = .ok warning ∧
      description = if documented = "" then warning else documented ++ "\n\n" ++ warning

/-- The description of an endpoint is that of its route. -/
lemma describes_of_describe {e : Endpoint} {description : String}
    (h : g.describe e = .ok description) :
    g.Describes e.route e.doc.description description := by
  rw [describe, Request.warning?] at h
  cases hcollect : Request.collect g.extractors e.route with
  | ok fields =>
      rw [hcollect] at h
      exact Or.inl ⟨fields, hcollect, (Except.ok.inj h).symm⟩
  | error failure =>
      cases hwarning : Request.warning g.wording failure with
      | error cause => simp only [hcollect, hwarning] at h; cases h
      | ok warning =>
          simp only [hcollect, hwarning] at h
          exact Or.inr ⟨failure, warning, hcollect, hwarning, (Except.ok.inj h).symm⟩

section Erased

variable {e e' : Endpoint} (h : e'.withoutRules = e.withoutRules)
include h

/-- Endpoints that differ in rules at most have one class. -/
lemma classInfo_eq_of_withoutRules : e'.classInfo = e.classInfo :=
  congrArg (fun e => e.classInfo) h

/-- Endpoints that differ in rules at most have one documentation. -/
lemma doc_eq_of_withoutRules : e'.doc = e.doc :=
  congrArg (fun e => e.doc) h

/-- Endpoints that differ in rules at most have the same parameters in their paths. -/
lemma ofRoute_eq_of_withoutRules (requestTypes : List String) :
    PathParameters.ofRoute e'.route requestTypes = PathParameters.ofRoute e.route requestTypes := by
  have hroute : e'.route.withoutRules = e.route.withoutRules := congrArg Endpoint.route h
  rw [← PathParameters.ofRoute_withoutRules, hroute, PathParameters.ofRoute_withoutRules]

/-- Endpoints that differ in rules at most have one path. -/
lemma path_eq_of_withoutRules : g.path e' = g.path e := by
  have huri : e'.route.uri = e.route.uri := congrArg (fun e => e.route.uri) h
  rw [path, path, ofRoute_eq_of_withoutRules h, huri]

/-- Endpoints that differ in rules at most start with one operation. -/
lemma start_eq_of_withoutRules (method : String) : g.start e' method = g.start e method := by
  have htags : e'.tags = e.tags := congrArg (fun e => e.tags) h
  rw [start, start, ofRoute_eq_of_withoutRules h, htags]

/-- **Rules change the fields of an operation at most**, and its description. -/
theorem sketch_sameButFields (method description description' : String) :
    (g.sketch e method description).SameButFields (g.isQueryMethod method)
      (g.sketch e' method description') := by
  have hstart := start_eq_of_withoutRules (g := g) h method
  have hsummary : e'.summary = e.summary := congrArg (fun e => e.summary) h
  constructor
  case located_eq => rw [located_path_sketch, located_path_sketch, hstart]
  case summary_eq => exact hsummary
  case parameters_eq =>
    intro hquery
    rw [sketch, sketch, hstart, hquery]
    rfl
  case requestBody_eq =>
    intro hquery
    rw [sketch, sketch, hquery]
    rfl
  all_goals rw [sketch, sketch, hstart]

end Erased

/-- **Two operations of two routes that differ in rules at most**: they differ in their fields, and
each has the description that its own rules ask for. -/
structure SameButRules (g : Generator) (r r' : Route) (op op' : Operation) : Prop where
  fields : op.SameButFields (g.isQueryMethod op.method) op'
  descriptions : ∃ doc, r.doc = .ok doc ∧ r'.doc = .ok doc ∧
    g.Describes r doc.description op.description ∧ g.Describes r' doc.description op'.description

/-- **A step of both runs**: from one registry, routes that differ in rules at most lead to one path
and one registry, and to operations that differ as the rules do. -/
lemma resolve_sameButRules (hg : g.Unhooked) {r r' : Route} (hr : r'.withoutRules = r.withoutRules)
    {k k₁ k₁' : Registry} {path path' : String} {op op' : Operation}
    (h : g.resolve r k = (.ok (some (path, op)), k₁))
    (h' : g.resolve r' k = (.ok (some (path', op')), k₁')) :
    path' = path ∧ k₁' = k₁ ∧ g.SameButRules r r' op op' := by
  obtain ⟨e, method, he, hm, rfl, houtline, rfl⟩ := of_resolve_unhooked hg h
  obtain ⟨e', method', he', hm', rfl, houtline', rfl⟩ := of_resolve_unhooked hg h'
  have herased : e'.withoutRules = e.withoutRules := by
    have hsome := congrArg Route.endpoint? hr
    rw [Route.endpoint?_withoutRules, Route.endpoint?_withoutRules, he, he'] at hsome
    exact Option.some.inj hsome
  have hmethod : method' = method := by
    have hmethods : r'.method = r.method := congrArg (fun r => r.method) hr
    rw [hm, hm'] at hmethods
    exact Except.ok.inj hmethods
  subst hmethod
  obtain ⟨description, hdescription, rfl⟩ := (outline_eq_ok_iff g e method').mp houtline
  obtain ⟨description', hdescription', rfl⟩ := (outline_eq_ok_iff g e' method').mp houtline'
  obtain ⟨hroute, hhandler, -⟩ := Route.of_endpoint? he
  obtain ⟨hroute', hhandler', -⟩ := Route.of_endpoint? he'
  refine ⟨path_eq_of_withoutRules herased, by rw [classInfo_eq_of_withoutRules herased],
    sketch_sameButFields herased method' description description', e.doc, ?_, ?_, ?_, ?_⟩
  · simp only [Route.doc, Route.handlerOrFail, hhandler]
    rfl
  · rw [← doc_eq_of_withoutRules herased]
    simp only [Route.doc, Route.handlerOrFail, hhandler']
    rfl
  · have hdescribes := describes_of_describe hdescription
    rwa [hroute] at hdescribes
  · have hdescribes := describes_of_describe hdescription'
    rwa [hroute', doc_eq_of_withoutRules herased] at hdescribes

end Generator

/-! ### Two documents -/

/-- **Two documents with the same paths and methods**, in the same order. -/
structure Document.SameKeys (d d' : Document) : Prop where
  names : d'.paths.names = d.paths.names
  methods : ∀ path, (d'.item path).operations.names = (d.item path).operations.names

/-- Rows with the same paths and methods are listed under the same paths and methods. -/
lemma Document.Lists.sameKeys {d d' : Document} {rows rows' : List (String × Operation)}
    (h : d.Lists rows) (h' : d'.Lists rows')
    (hkeys : rows'.map (fun row => (row.1, row.2.method)) =
      rows.map fun row => (row.1, row.2.method)) : d.SameKeys d' := by
  constructor
  · have hpaths : rows'.map (·.1) = rows.map (·.1) := by
      have hfirst := congrArg (List.map (·.1)) hkeys
      rwa [List.map_map, List.map_map] at hfirst
    rw [h.names, h'.names, hpaths]
  · intro path
    have hmethods : ∀ rows : List (String × Operation),
        (Listing.valuesOf rows path).map (·.method) =
          Listing.valuesOf (rows.map fun row => (row.1, row.2.method)) path := by
      intro rows
      rw [Listing.valuesOf, Listing.valuesOf, List.filter_map, List.map_map, List.map_map]
      rfl
    rw [(h.item path).names, (h'.item path).names, hmethods, hmethods, hkeys]

/-- Rows that differ in one row are listed alike under every other path or method. -/
lemma Document.Lists.get?_eq {d d' : Document} {xs ys : List (String × Operation)} {path : String}
    {op op' : Operation} (h : d.Lists (xs ++ (path, op) :: ys))
    (h' : d'.Lists (xs ++ (path, op') :: ys)) (hmethod : op'.method = op.method)
    {other method : String} (hne : (other, method) ≠ (path, op.method)) :
    (d'.item other).operations.get? method = (d.item other).operations.get? method := by
  rw [(h.item other).get?, (h'.item other).get?]
  by_cases hpath : path = other
  · have hop : op.method ≠ method := fun hm => hne (by rw [hpath, hm])
    simp [Listing.valuesOf, List.filter_append, hpath, hmethod, hop]
  · simp [Listing.valuesOf, List.filter_append, hpath]

namespace Generator

variable {g : Generator}

/-- **Two documents that differ at one route**, of runs that end with the registry `last`: the rows
before and behind it are the same, its own rows have one path, and its operations differ as the
rules do; under every other path or method the documents have the same operations. -/
def DifferAt (g : Generator) (before : List Route) (r r' : Route) (after : List Route)
    (last : Registry) (d d' : Document) : Prop :=
  ∃ xs k path op op' k₁ ys, g.Run {} (before.filter g.keeps) xs k ∧
    g.resolve r k = (.ok (some (path, op)), k₁) ∧ g.resolve r' k = (.ok (some (path, op')), k₁) ∧
    g.Run k₁ (after.filter g.keeps) ys last ∧
    d.Lists (xs ++ (path, op) :: ys) ∧ d'.Lists (xs ++ (path, op') :: ys) ∧
    g.SameButRules r r' op op' ∧
    ∀ other method, (other, method) ≠ (path, op.method) →
      (d'.item other).operations.get? method = (d.item other).operations.get? method

/-- **Both runs**: two runs over routes of which one that is documented differs in its rules are one
up to this route, are one behind it, and list documents that differ at it. -/
lemma differAt_of_run (hg : g.Unhooked) {r r' : Route} (hr : r'.withoutRules = r.withoutRules)
    (hclass : r.isClassBased = true) (hkept : g.keeps r = true) (hkept' : g.keeps r' = true)
    {before after : List Route} {rows rows' : List (String × Operation)} {last last' : Registry}
    {d d' : Document} (h : g.Run {} ((before ++ r :: after).filter g.keeps) rows last)
    (h' : g.Run {} ((before ++ r' :: after).filter g.keeps) rows' last')
    (hlists : d.Lists rows) (hlists' : d'.Lists rows') :
    last' = last ∧ d.SameKeys d' ∧ g.DifferAt before r r' after last d d' := by
  rw [List.filter_append, List.filter_cons_of_pos hkept] at h
  rw [List.filter_append, List.filter_cons_of_pos hkept'] at h'
  -- up to the changed route the runs are one
  obtain ⟨xs, k, rest, rfl, hbefore, hrest⟩ := h.of_append
  obtain ⟨xs', k', rest', rfl, hbefore', hrest'⟩ := h'.of_append
  obtain ⟨rfl, rfl⟩ := hbefore.unique hbefore'
  -- it leads both to one registry
  obtain ⟨⟨path, op⟩, k₁, ys, rfl, hrow, hafter⟩ := hrest.of_cons hclass
  have hclass' := (Route.isClassBased_eq_of_withoutRules hr).trans hclass
  obtain ⟨⟨path', op'⟩, k₁', ys', rfl, hrow', hafter'⟩ := hrest'.of_cons hclass'
  obtain ⟨rfl, rfl, hsame⟩ := resolve_sameButRules hg hr hrow hrow'
  -- so behind it they are one again
  obtain ⟨rfl, hregistry⟩ := hafter.unique hafter'
  have hkeys : d.SameKeys d' := by
    refine hlists.sameKeys hlists' ?_
    simp only [List.map_append, List.map_cons, hsame.fields.method_eq]
  exact ⟨hregistry, hkeys, _, _, _, op, op', _, _, hbefore, hrow, hrow', hafter, hlists, hlists',
    hsame, fun _ _ hne => hlists.get?_eq hlists' hsame.fields.method_eq hne⟩

/-- A generator for all routes whose host fails when it computes rules. -/
def helpless : Generator where
  filter := some fun _ => .ok true
  extractors := Extractor.standard fun _ _ => .error (.raised "RuntimeError" "no rules")

/-- A route with rules. -/
def ruledRoute (rules : Rules) : Route where
  methods := ["GET"]
  uri := "api/users/{id}"
  handler := some {
    classInfo := some { name := "App.UserController" }
    method := some "show"
    doc := some { description := "A user." }
    formRequest := some { className := "App.ShowUser", rules } }

end Generator

end RouteAtlas
