/-
Routes as operations.

* `Generator`: settings, and the functions of a host that take part in a run.
* `Generator.outline`: an endpoint as an operation: tags, parameters, fields and texts, with its
  path. Nothing outside the route is asked for. It fails if rules fail and have no text for it.
* `Generator.resolve`: a route as an operation under a path. Its class is registered first, then the
  host adds responses, and last adjusts the whole. Routes without an endpoint have no operation.
-/
import RouteAtlas.PathParameter
import RouteAtlas.Registry
import RouteAtlas.Request
import RouteAtlas.Route.Endpoint
import RouteAtlas.Settings

namespace RouteAtlas

/-- What a run is made with. -/
structure Generator where
  settings : Settings := {}
  /-- Which routes are documented; without it those with the middleware of the settings. -/
  filter : Option (Route → Except Failure Bool) := none
  /-- The last change to every operation. -/
  adjust : Operation → Endpoint → Except Failure Operation := fun op _ => .ok op
  /-- The last change to the document, which may be dropped. -/
  transform : Document → Except Failure (Option Document) := fun d => .ok (some d)
  extractors : List Extractor := []
  /-- The words of reports on rules. -/
  wording : Wording := .brief
  /-- The responses of an endpoint. -/
  responses : Endpoint → Consultation (List Response) := fun _ => .done []

namespace Generator

/-- The path of an endpoint. -/
def path (g : Generator) (e : Endpoint) : String :=
  Template.normalize e.route.uri (PathParameters.ofRoute e.route g.settings.requestTypes).aliases
    g.settings.sharedPath

/-- The operation of an endpoint under a method, with its tags and the parameters of its path. -/
def start (g : Generator) (e : Endpoint) (method : String) : Operation :=
  ({ method, tags := e.tags : Operation }).addParameters
    (PathParameters.ofRoute e.route g.settings.requestTypes).parameters

/-- The operation of an endpoint under a method, without responses. -/
def outline (g : Generator) (e : Endpoint) (method : String) : Except Failure Operation := do
  let (op, warned) :=
    Request.compose g.wording g.extractors g.settings.queryMethods e.route (g.start e method)
  let warning? ← warned
  .ok { op with
    summary := e.summary
    description := match warning? with
      | some warning => Request.appendWarning e.doc.description warning
      | none => e.doc.description }

/-- The operation of an endpoint whose class is registered. -/
def operation (g : Generator) (e : Endpoint) (k : Registry) :
    Except Failure (String × Operation) × Registry :=
  match e.route.method with
  | .error failure => (.error failure, k)
  | .ok method =>
    match g.outline e method with
    | .error failure => (.error failure, k)
    | .ok outline =>
      match (g.responses e).run k with
      | (.error failure, k) => (.error failure, k)
      | (.ok responses, k) =>
        match g.adjust { outline with responses } e with
        | .error failure => (.error failure, k)
        | .ok op => (.ok (g.path e, op), k)

/-- A route as an operation under a path, and what is registered then. -/
def resolve (g : Generator) (r : Route) (k : Registry) :
    Except Failure (Option (String × Operation)) × Registry :=
  match r.endpoint? with
  | none => (.ok none, k)
  | some e =>
    match g.operation e (k.register e.classInfo) with
    | (.ok resolved, k) => (.ok (some resolved), k)
    | (.error failure, k) => (.error failure, k)

end Generator

end RouteAtlas
