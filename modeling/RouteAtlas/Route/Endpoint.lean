/-
Endpoints: the routes that a document describes.

* `Endpoint`: a route with its handler and the class of the handler.
* `Route.endpoint?`: the endpoint of a route whose handler is a method of a class.
* `Route.isSome_endpoint?`: exactly the class-based routes have one.
-/
import RouteAtlas.Route

namespace RouteAtlas

/-- A route with its handler and the class of the handler. -/
structure Endpoint where
  route : Route
  handler : Handler
  classInfo : ClassInfo

namespace Endpoint

/-- The documentation of the method, which may be empty. -/
def doc (e : Endpoint) : DocBlock :=
  e.handler.doc.getD {}

/-- The documentation of the class, which may be empty. -/
def classDoc (e : Endpoint) : DocBlock :=
  e.classInfo.doc.getD {}

/-- The tags of an endpoint: those of its class, then the class itself. -/
def tags (e : Endpoint) : List String :=
  e.classDoc.tagList ++ [e.classInfo.tag]

/-- What a document says about an endpoint in a line: the summary without the points at its end. -/
def summary (e : Endpoint) : String :=
  String.ofList (Text.trimRight (· == '.') e.doc.summary.toList)

end Endpoint

namespace Route

/-- The endpoint of a route whose handler is a method of a class. -/
def endpoint? (r : Route) : Option Endpoint :=
  match r.handler with
  | none => none
  | some h =>
    match h.classInfo with
    | none => none
    | some c => if h.method.any (· != "") then some ⟨r, h, c⟩ else none

/-- Exactly the class-based routes have endpoints. -/
theorem isSome_endpoint? (r : Route) : r.endpoint?.isSome = r.isClassBased := by
  unfold endpoint? isClassBased
  cases r.handler with
  | none => rfl
  | some h =>
    cases hc : h.classInfo with
    | none => simp [hc]
    | some c => cases hm : h.method.any (· != "") <;> simp [hc, hm]

/-- An endpoint is one of its route. -/
theorem route_of_endpoint? {r : Route} {e : Endpoint} (h : r.endpoint? = some e) : e.route = r := by
  unfold endpoint? at h
  split at h
  · cases h
  · split at h
    · cases h
    · split at h
      · cases h
        rfl
      · cases h

end Route

end RouteAtlas
