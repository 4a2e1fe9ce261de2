/-
Manifests: the routes of an application, as they are stored.

* `ManifestFailure`: why a file gives no routes, with `ManifestFailure.message`.
* `Manifest.ofValue`: the routes of a value, which is a list of routes or has one. The first route
  with a defect is reported.
* `Manifest.ofText`, `Manifest.ofFile`: the routes of a text and of a file. A text whose format is
  not told is read as JSON if it can be.
-/
import RouteAtlas.Route
import RouteAtlas.SourceFile

namespace RouteAtlas

/-- Why a file gives no routes. -/
inductive ManifestFailure
  | notFound (path : String)
  /-- The bytes of the file are no text. -/
  | notText
  | empty (path : String)
  | malformed (format : Format)
  /-- The text is well-formed and gives no value for another cause. -/
  | unreadable (fault : Fault)
  | notList (given : String)
  | invalidRoute (index : Nat) (first : Defect) (more : List Defect)
  deriving DecidableEq, Repr

/-- The text of a failure. -/
def ManifestFailure.message : ManifestFailure → String
  | notFound path => s!"Route manifest not found: {path}"
  | notText => ""
  | empty path => s!"Route manifest is empty: {path}"
  | malformed .json => "Invalid JSON"
  | malformed .yaml => "Failed to parse route manifest as JSON or YAML"
  | unreadable fault => fault.message?.getD ""
  | notList given => s!"Route manifest must be a list of routes (got {given})"
  | invalidRoute index _ _ => s!"Invalid route at index {index}"

namespace Manifest

/-- The routes of a row of values, of which the first has the given index. -/
def routesFrom (index : Nat) : List Value → Except ManifestFailure (List Route)
  | [] => .ok []
  | item :: rest =>
    match Route.read item with
    | .rejected first more => .error (.invalidRoute index first more)
    | .accepted route => (routesFrom (index + 1) rest).map (route :: ·)

/-- The value that holds the routes: a mapping has them in a field, and else has none. -/
def routeList : Value → Value
  | .map entries => (Value.field? "routes" entries).getD (.list [])
  | value => value

/-- The routes of a value. -/
def ofValue (value : Value) : Except ManifestFailure (List Route) :=
  match routeList value with
  | .list items => routesFrom 0 items
  | other => .error (.notList other.typeName)

/-- A fault of a text as a failure. -/
def failureOf (format : Format) : Fault → ManifestFailure
  | .malformed => .malformed format
  | fault => .unreadable fault

/-- The value of a text in a format; without one JSON is tried first. A text that is well-formed in
JSON is not tried again. -/
def valueOfText (readers : Readers) (format : Option Format) (text : String) :
    Except ManifestFailure Value :=
  match format with
  | some .yaml => (readers.yaml text).mapError (failureOf .yaml)
  | some .json => (readers.json text).mapError (failureOf .json)
  | none =>
    match readers.json text with
    | .error .malformed => (readers.yaml text).mapError (failureOf .yaml)
    | other => other.mapError (failureOf .json)

/-- The routes of a text. -/
def ofText (readers : Readers) (path text : String) : Except ManifestFailure (List Route) := do
  if text.toList.all Text.isBlank then .error (.empty path)
  else ofValue (← valueOfText readers (SourceFile.formatOf? path) text)

/-- The routes of a file. -/
def ofFile (readers : Readers) (path : String) : SourceFile → Except ManifestFailure (List Route)
  | .missing | .directory => .error (.notFound path)
  | .content bytes =>
    match SourceFile.text? bytes with
    | some text => ofText readers path text
    | none => .error .notText

end Manifest

end RouteAtlas
