/-
Handlers: the methods that routes are bound to.

* `Rules`: the validation rules of a handler, given as a mapping from fields to specifications, or
  computed by a function of the host.
* `HandlerParameter`: a parameter of a method as it is declared.
* `Handler`: the class and the method, the documentation, and the places where rules were found.
-/
import RouteAtlas.Route.ClassInfo

namespace RouteAtlas

/-- Validation rules, as they are given. -/
inductive Rules
  | literal (entries : Listing Value)
  /-- The name of the function that computes them. -/
  | computed (function : String)

namespace Rules

/-- Rules: a mapping with texts as keys, or a function. Anything else has the defects of a mapping
and one more, as it is no function either. -/
def read : Value → Checked Rules
  | .callable name => .accepted (.computed name)
  | value =>
    match (Value.readMapping Checked.accepted value).under (.field "dict[str,any]") with
    | .accepted entries => .accepted (.literal entries)
    | .rejected first more => .rejected first (more ++ [⟨[.field "callable"], .notCallable⟩])

/-- Rules as a value. -/
def toValue : Rules → Value
  | literal entries => .record entries
  | computed name => .callable name

end Rules

/-- A parameter of a handler as it is declared. -/
structure HandlerParameter where
  name : String
  typeName : Option String := none
  position : Int := 0
  /-- Whether the declared type is known to stand for the request itself. -/
  isRequest : Bool := false
  deriving DecidableEq, Repr

namespace HandlerParameter

/-- A declared parameter by its fields. -/
def read (fields : List (Value × Value)) : Checked HandlerParameter :=
  HandlerParameter.mk
    <$> Value.required fields "name" Value.readText
    <*> Value.withDefault fields "type_name" (Value.readOptional Value.readText) none
    <*> Value.withDefault fields "position" Value.readWhole 0
    <*> Value.withDefault fields "is_request" Value.readTruth false

/-- A declared parameter as a value. -/
def toValue (p : HandlerParameter) : Value :=
  .record [("name", .text p.name), ("type_name", .ofText? p.typeName),
    ("position", .int p.position), ("is_request", .bool p.isRequest)]

end HandlerParameter

/-- A request object in the signature of a handler that carries rules of its own. -/
structure FormRequest where
  className : String
  rules : Rules

namespace FormRequest

/-- A request object by its fields. -/
def read (fields : List (Value × Value)) : Checked FormRequest :=
  FormRequest.mk
    <$> Value.required fields "class_name" Value.readText
    <*> Value.required fields "rules" Rules.read

/-- A request object as a value. -/
def toValue (f : FormRequest) : Value :=
  .record [("class_name", .text f.className), ("rules", f.rules.toValue)]

end FormRequest

/-- A call in the body of a handler that validates the request. -/
structure ValidateCall where
  rules : Rules

namespace ValidateCall

/-- A validating call by its fields. -/
def read (fields : List (Value × Value)) : Checked ValidateCall :=
  ValidateCall.mk <$> Value.required fields "rules" Rules.read

/-- A validating call as a value. -/
def toValue (v : ValidateCall) : Value :=
  .record [("rules", v.rules.toValue)]

end ValidateCall

/-- What a route is bound to. -/
structure Handler where
  classInfo : Option ClassInfo := none
  method : Option String := none
  parameters : List HandlerParameter := []
  doc : Option DocBlock := none
  formRequest : Option FormRequest := none
  validateCall : Option ValidateCall := none

namespace Handler

/-- A handler by its fields. -/
def read (fields : List (Value × Value)) : Checked Handler :=
  Handler.mk
    <$> Value.withDefault fields "class_info"
      (Value.readOptional (Value.readRecord ClassInfo.read)) none
    <*> Value.withDefault fields "method" (Value.readOptional Value.readText) none
    <*> Value.withDefault fields "parameters"
      (Value.readList (Value.readRecord HandlerParameter.read)) []
    <*> Value.withDefault fields "doc" (Value.readOptional (Value.readRecord DocBlock.read)) none
    <*> Value.withDefault fields "form_request"
      (Value.readOptional (Value.readRecord FormRequest.read)) none
    <*> Value.withDefault fields "validate_call"
      (Value.readOptional (Value.readRecord ValidateCall.read)) none

/-- A handler as a value. -/
def toValue (h : Handler) : Value :=
  .record [("class_info", (h.classInfo.map ClassInfo.toValue).getD .null),
    ("method", .ofText? h.method),
    ("parameters", .list (h.parameters.map HandlerParameter.toValue)),
    ("doc", (h.doc.map DocBlock.toValue).getD .null),
    ("form_request", (h.formRequest.map FormRequest.toValue).getD .null),
    ("validate_call", (h.validateCall.map ValidateCall.toValue).getD .null)]

end Handler

end RouteAtlas
