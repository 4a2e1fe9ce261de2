/-
The document of an application.

* `Generator.select`: the routes that are documented. Routes that serve documentation are left out,
  then the host or the middleware decides.
* `Generator.resolveAll`: the operations of routes with their paths, in order.
* `Generator.generate`: a whole run. It starts with an empty document and nothing registered.
-/
import RouteAtlas.Resolution

namespace RouteAtlas.Generator

/-- Whether the name of a route says that it serves documentation. -/
def servesDocs (g : Generator) (r : Route) : Bool :=
  r.name.any fun name =>
    name != "" && g.settings.docsNames.toList.isPrefixOf name.toList

/-- Whether a route is documented, if it does not serve documentation. -/
def admits (g : Generator) (r : Route) : Except Failure Bool :=
  match g.filter with
  | some filter => filter r
  | none => .ok (r.middleware.contains g.settings.middlewareGroup)

/-- The routes that are documented, in order. -/
def select (g : Generator) : List Route → Except Failure (List Route)
  | [] => .ok []
  | r :: rest =>
    if g.servesDocs r then g.select rest
    else do
      let isAdmitted ← g.admits r
      let selected ← g.select rest
      .ok (if isAdmitted then r :: selected else selected)

/-- The operations of routes with their paths, and what is registered then. It ends with the first
failure. -/
def resolveAll (g : Generator) :
    List Route → Registry → Except Failure (List (String × Operation) × Registry)
  | [], k => .ok ([], k)
  | r :: rest, k =>
    match g.resolve r k with
    | (.error failure, _) => .error failure
    | (.ok none, k) => g.resolveAll rest k
    | (.ok (some resolved), k) => do
      let (others, k) ← g.resolveAll rest k
      .ok (resolved :: others, k)

/-- What a run ends with. -/
structure Outcome where
  /-- The document, unless the last change dropped it. -/
  document : Option Document
  registry : Registry

/-- The document of routes, with what was registered for it. -/
def generate (g : Generator) (routes : List Route) : Except Failure Outcome := do
  let selected ← g.select routes
  let (resolved, registry) ← g.resolveAll selected {}
  let document := g.settings.document.addAll resolved
  let document ← g.transform { document with components := registry.components }
  .ok ⟨document, registry⟩

end RouteAtlas.Generator
