/-
Routes of an application, with what is known about their handlers.

* `Route`: methods, path template, name, middleware and handler.
* `Route.method`: the method under which a route is documented: the first one, in lower case.
* `Route.placeholders`: the names of the placeholders, as declared or else as found in the path.
* `Route.isClassBased`: whether the handler is a method of a class; only such routes are documented.
* `Route.read`, `Route.toValue`: routes from and as values.
-/
import RouteAtlas.Failure
import RouteAtlas.Route.Handler
import RouteAtlas.Route.Template
import RouteAtlas.Text.Lowercase

namespace RouteAtlas

/-- A route of an application. -/
structure Route where
  methods : List String
  uri : String
  name : Option String := none
  middleware : List String := []
  /-- The names of the placeholders, if they are declared. -/
  parameterNames : Option (List String) := none
  handler : Option Handler := none

namespace Route

/-- The method under which a route is documented. -/
def method (r : Route) : Except Failure String :=
  match r.methods with
  | [] => .error (.noMethod r.uri)
  | first :: _ => .ok (Text.lowerString first)

/-- The names of the placeholders. -/
def placeholders (r : Route) : List String :=
  r.parameterNames.getD (Template.names r.uri)

/-- Whether the handler is a method of a class. -/
def isClassBased (r : Route) : Bool :=
  match r.handler with
  | some h => h.classInfo.isSome && h.method.any (· != "")
  | none => false

/-- The handler of a route that must have one. -/
def handlerOrFail (r : Route) : Except Failure Handler :=
  match r.handler with
  | some h => .ok h
  | none => .error .noHandler

/-- The class of the handler of a route that must have one. -/
def classInfo (r : Route) : Except Failure ClassInfo := do
  match (← r.handlerOrFail).classInfo with
  | some c => .ok c
  | none => .error .noClass

/-- The documentation of the method, which may be empty. -/
def doc (r : Route) : Except Failure DocBlock := do
  .ok ((← r.handlerOrFail).doc.getD {})

/-- The documentation of the class, which may be empty. -/
def classDoc (r : Route) : Except Failure DocBlock := do
  .ok ((← r.classInfo).doc.getD {})

/-- The declared parameters of the handler, none without a handler. -/
def handlerParameters (r : Route) : List HandlerParameter :=
  match r.handler with
  | some h => h.parameters
  | none => []

/-- The documented parameters of the handler, by name. -/
def docParams (r : Route) : Listing DocParam :=
  match r.handler.bind (·.doc) with
  | some d => d.paramsByName
  | none => []

/-- A route by its fields. -/
def readFields (fields : List (Value × Value)) : Checked Route :=
  Route.mk
    <$> Value.required fields "methods" Value.readTexts
    <*> Value.required fields "uri" Value.readText
    <*> Value.withDefault fields "name" (Value.readOptional Value.readText) none
    <*> Value.withDefault fields "middleware" Value.readTexts []
    <*> Value.withDefault fields "parameter_names" (Value.readOptional Value.readTexts) none
    <*> Value.withDefault fields "handler" (Value.readOptional (Value.readRecord Handler.read)) none

/-- A route. -/
def read : Value → Checked Route :=
  Value.readRecord readFields

/-- A route as a value. -/
def toValue (r : Route) : Value :=
  .record [("methods", .texts r.methods), ("uri", .text r.uri), ("name", .ofText? r.name),
    ("middleware", .texts r.middleware),
    ("parameter_names", (r.parameterNames.map Value.texts).getD .null),
    ("handler", (r.handler.map Handler.toValue).getD .null)]

end Route

end RouteAtlas
