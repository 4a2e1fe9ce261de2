/-
How the fields that a route validates are documented.

* `collect`: the parameters that the rules of a route describe.
* `bodySchema`: parameters as the properties of an object.
* `warning`: what the description says if rules cannot be read. It hangs on the text of the failure.
* `compose`: an operation with its fields, as query parameters or as a body by its method. If the
  rules fail, no part of them is used; if the warning fails as well, so does the whole.
-/
import RouteAtlas.Document.Operation
import RouteAtlas.Extraction
import RouteAtlas.Rule.Field

namespace RouteAtlas.Request

/-- The parameters that rules describe. Empty rules describe none. -/
def parametersOf (rules : Value) : Except Failure (List Parameter) :=
  if rules.truthy then
    match rules with
    | .map entries => Rule.interpretFields entries
    | value => .error (.noFields value.typeName)
  else .ok []

/-- The parameters that the rules of a route describe. -/
def collect (extractors : List Extractor) (r : Route) : Except Failure (List Parameter) := do
  match ← extract extractors r with
  | some rules => parametersOf rules
  | none => .ok []

/-- Parameters as the properties of an object. -/
def bodySchema (parameters : List Parameter) : Schema :=
  (parameters.foldl (fun properties p => properties.add p.name p.schema p.required)
    ({} : Properties)).schema {}

/-- What a description says if rules cannot be read, unless the failure has no text. -/
def warning (wording : Wording) (failure : Failure) : Except Failure String :=
  (failure.text wording).map ("⚠️ Cannot generate request documentation: " ++ ·)

/-- A description with a warning below it. -/
def appendWarning (description warning : String) : String :=
  if description = "" then warning else description ++ "\n\n" ++ warning

/-- Whether the fields of an operation are passed in its query. -/
def isQuery (queryMethods : List String) (op : Operation) : Bool :=
  (queryMethods.map Text.lowerString).contains op.method

/-- The operation without documented fields: only one whose fields are no query has a body. -/
def withoutFields (op : Operation) (query : Bool) : Operation :=
  if query then op else op.setBody .anyObject

/-- What becomes of an operation that gets the fields of its route, and how this ends: with a warning
if the fields are not known, or with a failure if there is no warning that could be given. -/
def compose (wording : Wording) (extractors : List Extractor) (queryMethods : List String) (r : Route)
    (op : Operation) : Operation × Except Failure (Option String) :=
  let query := isQuery queryMethods op
  match collect extractors r with
  | .error failure => (withoutFields op query, (warning wording failure).map some)
  | .ok [] => (withoutFields op query, .ok none)
  | .ok parameters =>
    (if query then op.addParameters parameters else op.setBody (.json (bodySchema parameters)),
      .ok none)

end RouteAtlas.Request
