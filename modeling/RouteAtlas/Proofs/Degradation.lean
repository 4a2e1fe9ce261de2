/-
What a bad route does to a run.

The run is defined here a second time with every step that relies on an earlier one as a step that
may fail: an alias is looked up, a parameter is replaced in the slot of one that equals it, the
handler and the class of a route are asked for, and an extractor may fail already when it looks at a
handler. None of these steps ever fails. Failing rules become a warning, but the text of the failure
is asked for outside of what is caught: a failure that has none ends the run, and so does a route
without a method.

* `Extractor.Fallible`, `Extractor.Fallible.extract_eq`: looking that fails is finding rules that
  fail.
* `PathParameters.ofRouteStrict_eq`: every placeholder of a route has an alias.
* `Request.composeStrict_eq`: failing rules are a warning, and fields find their slots.
* `Generator.strictResolve_eq`, `Generator.strictGenerate_eq`: **the strict run is the run**.
* `Generator.generate_fails_iff`: **a run fails exactly for a class-based route without a method, or
  with rules that fail and have no text for it**, as the first such route does.
-/
import RouteAtlas.Proofs.PathAgreement

namespace RouteAtlas

/-! ### Strict steps -/

/-- Steps that all succeed give all their results. -/
lemma mapM_eq_ok {α β : Type} {f : α → Except Failure β} {g : α → β} {l : List α}
    (h : ∀ a ∈ l, f a = .ok (g a)) : l.mapM f = .ok (l.map g) := by
  induction l with
  | nil => rfl
  | cons a rest ih =>
      rw [List.mapM_cons, h a List.mem_cons_self, ih fun b hb => h b (List.mem_cons_of_mem _ hb)]
      rfl

/-- The entry of a name that must have one. -/
def Listing.entry {α : Type} (entries : Listing α) (name : String) : Except Failure α :=
  match entries.get? name with
  | some value => .ok value
  | none => .error (.noEntry name)

namespace Extractor

/-- A way of finding rules that may fail already when it looks at a handler. -/
structure Fallible where
  applies : Handler → Except Failure Bool
  rules : Handler → Route → Except Failure (Option Value)

namespace Fallible

/-- Where looking fails, the extractor applies and its rules fail. -/
def toExtractor (x : Fallible) : Extractor where
  applies h :=
    match x.applies h with
    | .ok isApplicable => isApplicable
    | .error _ => true
  rules h r :=
    match x.applies h with
    | .ok _ => x.rules h r
    | .error failure => .error failure

/-- The rules of a handler, by the first extractor that applies. It ends where looking fails. -/
def extract (h : Handler) (r : Route) : List Fallible → Except Failure (Option Value)
  | [] => .ok none
  | x :: rest =>
    match x.applies h with
    | .error failure => .error failure
    | .ok true => x.rules h r
    | .ok false => extract h r rest

/-- **Looking that fails is finding rules that fail.** -/
lemma extract_eq {r : Route} {h : Handler} (hr : r.handler = some h) (xs : List Fallible) :
    RouteAtlas.extract (xs.map toExtractor) r = extract h r xs := by
  simp only [RouteAtlas.extract, hr]
  induction xs with
  | nil => rfl
  | cons x rest ih =>
      rw [List.map_cons, extract]
      cases happlies : x.applies h with
      | error failure =>
          rw [List.find?_cons_of_pos (by simp [toExtractor, happlies])]
          simp [toExtractor, happlies]
      | ok isApplicable =>
          cases isApplicable with
          | true =>
              rw [List.find?_cons_of_pos (by simp [toExtractor, happlies])]
              simp [toExtractor, happlies]
          | false =>
              rw [List.find?_cons_of_neg (by simp [toExtractor, happlies])]
              exact ih

end Fallible

end Extractor

namespace PathParameters

open PathParameter

/-- The parameters of the path of a route. It fails if a placeholder has no alias. -/
def ofRouteStrict (r : Route) (requestTypes : List String) : Except Failure PathParameters := do
  let declared := signature requestTypes r.handlerParameters
  let aliases := aliasMap r.placeholders (declared.map (·.name))
  let byName := Listing.ofPairs (declared.map fun p => (p.name, p))
  let parameters ← r.placeholders.mapM fun placeholder => do
    let name ← aliases.entry placeholder
    .ok (resolve name (byName.get? name) (r.docParams.get? name))
  .ok ⟨parameters, aliases⟩

/-- **Every placeholder has an alias.** -/
lemma ofRouteStrict_eq (r : Route) (requestTypes : List String) :
    ofRouteStrict r requestTypes = .ok (ofRoute r requestTypes) := by
  let aliases := (ofRoute r requestTypes).aliases
  let byName := Listing.ofPairs
    ((signature requestTypes r.handlerParameters).map fun p => (p.name, p))
  let named (name : String) := resolve name (byName.get? name) (r.docParams.get? name)
  have hall : (r.placeholders.mapM fun placeholder => do
      .ok (named (← aliases.entry placeholder)) : Except Failure (List Parameter)) =
        .ok (r.placeholders.map fun placeholder =>
          named (Template.aliasOf aliases placeholder)) := by
    refine mapM_eq_ok fun placeholder hplaceholder => ?_
    rw [Listing.entry, get?_aliases hplaceholder]
    rfl
  rw [ofRouteStrict]
  exact congrArg (fun row : Except Failure (List Parameter) => row >>= fun parameters =>
    Except.ok (PathParameters.mk parameters aliases)) hall

end PathParameters

namespace Request

variable (wording : Wording) (s : Parameter.Sameness) (xs : List Extractor.Fallible)
  (queryMethods : List String) (r : Route)

/-- The parameters that the rules of a route describe. -/
def collectStrict : Except Failure (List Parameter) := do
  match r.handler with
  | none => .ok []
  | some h =>
    match ← Extractor.Fallible.extract h r xs with
    | some rules => parametersOf rules
    | none => .ok []

/-- An operation with the fields that its route validates. It fails if a field finds no slot; if the
rules fail, it has a warning, or fails as well if there is no text for it. -/
def composeStrict (op : Operation) : Except Failure (Operation × Option String) :=
  let query := isQuery queryMethods op
  match collectStrict xs r with
  | .error failure => do
    let warning ← warning wording failure
    .ok (withoutFields op query, some warning)
  | .ok [] => .ok (withoutFields op query, none)
  | .ok fields =>
    if query then do
      let parameters ← s.overwriteAll op.parameters fields
      .ok ({ op with parameters }, none)
    else .ok (op.setBody (.json (bodySchema fields)), none)

/-- Looking that fails is finding rules that fail, for the parameters of a route as well. -/
lemma collectStrict_eq :
    collectStrict xs r = collect (xs.map Extractor.Fallible.toExtractor) r := by
  rw [collectStrict, collect]
  cases hr : r.handler with
  | none =>
      rw [extract, hr]
      rfl
  | some h =>
      have hextract := Extractor.Fallible.extract_eq hr xs
      exact (congrArg (fun found : Except Failure (Option Value) => found >>= fun rules? =>
        match rules? with
        | some rules => parametersOf rules
        | none => .ok []) hextract).symm

/-- **Failing rules are a warning, and fields find their slots.** -/
lemma composeStrict_eq (op : Operation) :
    composeStrict wording s xs queryMethods r op =
      (compose wording (xs.map Extractor.Fallible.toExtractor) queryMethods r op).2.map fun w =>
        ((compose wording (xs.map Extractor.Fallible.toExtractor) queryMethods r op).1, w) := by
  rw [composeStrict, compose, collectStrict_eq]
  cases collect (xs.map Extractor.Fallible.toExtractor) r with
  | error failure =>
      dsimp only
      cases warning wording failure <;> rfl
  | ok fields =>
      cases fields with
      | nil => rfl
      | cons p rest =>
          simp only [s.overwriteAll_eq]
          cases isQuery queryMethods op <;> rfl

end Request

/-! ### The strict run -/

namespace Generator

variable (g : Generator) (s : Parameter.Sameness) (xs : List Extractor.Fallible)

/-- A route as an endpoint and, under its path, as an operation without responses. It fails if the
route is asked for a handler, a class or a method that it does not have, or if one of the strict
steps does. -/
def strictOutline (r : Route) : Except Failure (Endpoint × String × Operation) := do
  let handler ← r.handlerOrFail
  let classInfo ← r.classInfo
  let path ← PathParameters.ofRouteStrict r g.settings.requestTypes
  let method ← r.method
  let classDoc ← r.classDoc
  let parameters ← s.overwriteAll [] path.parameters
  let doc ← r.doc
  let (op, warning) ← Request.composeStrict g.wording s xs g.settings.queryMethods r
    { method, tags := classDoc.tagList ++ [classInfo.tag], parameters }
  let summary := String.ofList (Text.trimRight (· == '.') doc.summary.toList)
  let description := match warning with
    | some warning => Request.appendWarning doc.description warning
    | none => doc.description
  .ok (⟨r, handler, classInfo⟩, Template.normalize r.uri path.aliases g.settings.sharedPath,
    { op with summary, description })

/-- A route as an operation under a path, and what is registered then. -/
def strictResolve (r : Route) (k : Registry) :
    Except Failure (Option (String × Operation)) × Registry :=
  if r.isClassBased then
    match r.classInfo with
    | .error failure => (.error failure, k)
    | .ok classInfo =>
      match g.strictOutline s xs r with
      | .error failure => (.error failure, k.register classInfo)
      | .ok (e, path, op) =>
        match (g.responses e).run (k.register classInfo) with
        | (.error failure, k) => (.error failure, k)
        | (.ok responses, k) =>
          match g.adjust { op with responses } e with
          | .error failure => (.error failure, k)
          | .ok op => (.ok (some (path, op)), k)
  else (.ok none, k)

/-- The operations of routes with their paths, and what is registered then. -/
def strictResolveAll :
    List Route → Registry → Except Failure (List (String × Operation) × Registry)
  | [], k => .ok ([], k)
  | r :: rest, k =>
    match g.strictResolve s xs r k with
    | (.error failure, _) => .error failure
    | (.ok none, k) => strictResolveAll rest k
    | (.ok (some resolved), k) => do
      let (others, k) ← strictResolveAll rest k
      .ok (resolved :: others, k)

/-- The document of routes, with what was registered for it. -/
def strictGenerate (routes : List Route) : Except Failure Outcome := do
  let selected ← g.select routes
  let (resolved, registry) ← g.strictResolveAll s xs selected {}
  let document := g.settings.document.addAll resolved
  let document ← g.transform { document with components := registry.components }
  .ok ⟨document, registry⟩

variable {g xs}

/-- The strict steps together: what fails is the method, or the text of a warning. -/
lemma strictOutline_eq (hx : g.extractors = xs.map Extractor.Fallible.toExtractor) {r : Route}
    {e : Endpoint} (he : r.endpoint? = some e) :
    g.strictOutline s xs r =
      r.method.bind fun method => (g.outline e method).map fun op => (e, g.path e, op) := by
  obtain ⟨hroute, hhandler, hclass⟩ := Route.of_endpoint? he
  subst hroute
  rw [strictOutline]
  simp only [Route.classDoc, Route.doc, Route.classInfo, Route.handlerOrFail, hhandler, hclass,
    PathParameters.ofRouteStrict_eq, s.overwriteAll_eq, Request.composeStrict_eq, ← hx, bind,
    Except.bind]
  cases e.route.method with
  | error failure => rfl
  | ok method =>
      simp only [outline, start, Operation.addParameters, Endpoint.tags, Endpoint.classDoc]
      generalize Request.compose g.wording g.extractors g.settings.queryMethods e.route _ = composed
      obtain ⟨op, failure | warning?⟩ := composed <;> rfl

/-- **A strict step is a step.** -/
lemma strictResolve_eq (hx : g.extractors = xs.map Extractor.Fallible.toExtractor) (r : Route)
    (k : Registry) : g.strictResolve s xs r k = g.resolve r k := by
  rw [strictResolve]
  cases he : r.endpoint? with
  | none =>
      rw [if_neg (by simp [Route.endpoint?_eq_none_iff.mp he]), resolve_of_none he]
  | some e =>
      obtain ⟨hroute, hhandler, hclass⟩ := Route.of_endpoint? he
      have hinfo : r.classInfo = .ok e.classInfo := by
        simp only [Route.classInfo, Route.handlerOrFail, hhandler, hclass, bind, Except.bind]
      rw [if_pos (Route.isClassBased_of_endpoint? he), strictOutline_eq s hx he, resolve, he]
      simp only [hinfo, operation, hroute, Except.bind]
      cases r.method with
      | error failure => rfl
      | ok method =>
          dsimp only
          cases g.outline e method with
          | error failure => rfl
          | ok outline =>
              simp only [Except.map]
              cases (g.responses e).run (k.register e.classInfo) with
              | mk answer after =>
                  cases answer with
                  | error failure => rfl
                  | ok responses =>
                      dsimp only
                      cases g.adjust _ e <;> rfl

/-- **The strict run is the run**: none of its further failures ever happens. -/
theorem strictGenerate_eq (hx : g.extractors = xs.map Extractor.Fallible.toExtractor)
    (routes : List Route) : g.strictGenerate s xs routes = g.generate routes := by
  have hall : ∀ (selected : List Route) (k : Registry),
      g.strictResolveAll s xs selected k = g.resolveAll selected k := by
    intro selected
    induction selected with
    | nil => intro k; rfl
    | cons r rest ih =>
        intro k
        rw [strictResolveAll, resolveAll, strictResolve_eq s hx]
        obtain ⟨_ | _ | row, after⟩ := g.resolve r k
        · rfl
        · exact ih after
        · exact congrArg (fun result : Except Failure (List (String × Operation) × Registry) =>
            result >>= fun others => Except.ok (row :: others.1, others.2)) (ih after)
  rw [strictGenerate, generate]
  simp only [hall]

/-! ### The causes of failure -/

/-- An extractor whose rules fail, and that fails already when it looks at a method `look`. -/
def hostile : Extractor.Fallible where
  applies h :=
    if h.method = some "look" then .error (.raised "LookupError" "no source") else .ok true
  rules _ _ := .error (.raised "RuntimeError" "no rules")

/-- A method of a controller. -/
def handlerOf (method : String) : Option Handler :=
  some { classInfo := some { name := "App.UserController" }, method := some method }

/-- A generator for all routes whose one extractor fails, sometimes when it looks at a handler. -/
def hostileGenerator : Generator where
  filter := some fun _ => .ok true
  extractors := [hostile].map Extractor.Fallible.toExtractor

/-- Routes of which the first two have failing rules, the third has no class, and the last two
declare no method. -/
def mixedRoutes : List Route :=
  [{ methods := ["GET"], uri := "api/users/{id}/{id}", handler := handlerOf "look" },
    { methods := ["POST"], uri := "api/users", handler := handlerOf "store" },
    { methods := [], uri := "api/status", handler := some { method := some "status" } },
    { methods := [], uri := "api/tags", handler := handlerOf "tags" },
    { methods := [], uri := "api/posts", handler := handlerOf "posts" }]

/-- A host whose rules fail with a report that gives no text when it is asked for one. -/
def speechless : Host := fun _ _ =>
  .error (.untold "RuntimeError" (.raised "TypeError" "__str__ returned non-string (type int)"))

/-- A generator for such a host. -/
def speechlessGenerator : Generator where
  extractors := Extractor.standard speechless

/-- A route with the given rules for the one call that validates. -/
def widgetRoute (rules : Rules) : Route where
  methods := ["POST"]
  uri := "api/widgets"
  middleware := ["api"]
  handler := some {
    classInfo := some { name := "App.WidgetController" }
    method := some "store"
    validateCall := some { rules } }

end Generator

end RouteAtlas
