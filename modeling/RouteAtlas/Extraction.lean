/-
Finding the rules of a handler.

* `Host`: the functions of a host by name; they compute rules for a route.
* `Extractor`: a way of finding rules, with the handlers to which it applies.
* `Extractor.formRequest`, `Extractor.validateCall`: rules that the request object of a signature
  carries, and rules of a validating call.
* `extract`: the rules that the first applicable extractor finds; later ones do not count, even if
  it finds none or fails.
-/
import RouteAtlas.Route

namespace RouteAtlas

/-- The functions of a host by name, which compute rules for a route. -/
abbrev Host := String → Route → Except Failure Value

/-- A way of finding the rules of a handler. -/
structure Extractor where
  /-- Whether the handler has the shape that is understood. -/
  applies : Handler → Bool
  /-- The rules; nothing if there are none. -/
  rules : Handler → Route → Except Failure (Option Value)

namespace Rules

/-- The rules as a value, computed if they have to be. -/
def given (host : Host) (rules : Rules) (r : Route) : Except Failure Value :=
  match rules with
  | literal entries => .ok (.record entries)
  | computed function => host function r

/-- Rules as a mapping; null stands for no rules. -/
def materialize (host : Host) (rules : Rules) (r : Route) (source : String) :
    Except Failure (Option Value) := do
  match ← rules.given host r with
  | .null => .ok none
  | .map entries => .ok (some (.map entries))
  | value => .error (.rulesNotMapping source value.typeName)

end Rules

namespace Extractor

/-- The rules of the request object in the signature. -/
def formRequest (host : Host) : Extractor where
  applies h := h.formRequest.isSome
  rules h r :=
    match h.formRequest with
    | none => .ok none
    | some f => f.rules.materialize host r f.className

/-- The rules of the validating call in the body. -/
def validateCall (host : Host) : Extractor where
  applies h := h.validateCall.isSome
  rules h r :=
    match h.validateCall with
    | none => .ok none
    | some v => v.rules.materialize host r (h.method.getD "None" ++ "() validate call")

/-- The extractors that every host has. -/
def standard (host : Host) : List Extractor :=
  [formRequest host, validateCall host]

end Extractor

/-- The rules of the handler of a route, by the first extractor that applies. -/
def extract (extractors : List Extractor) (r : Route) : Except Failure (Option Value) :=
  match r.handler with
  | none => .ok none
  | some h =>
    match extractors.find? (·.applies h) with
    | none => .ok none
    | some extractor => extractor.rules h r

end RouteAtlas
