/-
Operations: what a document says about one method of one path.

* `RequestBody`, `Response`: bodies by content type; a response has a code, which is a number or a
  text.
* `Operation`: tags, texts, parameters, perhaps a body, and responses.
* `Operation.addParameters`: parameters are told apart by name and place, and a later one stands in
  the place of an earlier one.
* `RequestBody.tree`, `Response.tree`, `Operation.tree`: as values. Responses are listed by code; of
  two with one code the later counts.
-/
import RouteAtlas.Document.Parameter

namespace RouteAtlas

/-- Schemas by content type, as a value. -/
def contentTree (content : Listing Schema) : Value :=
  .record (content.map fun entry => (entry.1, .record [("schema", entry.2.tree)]))

/-- The content type of all bodies that are derived from rules. -/
def jsonContent : String := "application/json"

/-- The body of a request, by content type. -/
structure RequestBody where
  description : String := ""
  content : Listing Schema := []

namespace RequestBody

/-- The body with a schema for a content type. -/
def setContent (b : RequestBody) (contentType : String) (schema : Schema) : RequestBody :=
  { b with content := b.content.put contentType schema }

/-- A body as a value. -/
def tree (b : RequestBody) : Value :=
  .record ((if b.description = "" then [] else [("description", .text b.description)])
    ++ [("content", contentTree b.content)])

/-- The body of a content type that all derived bodies have, and of one schema. -/
def json (schema : Schema) : RequestBody :=
  ({} : RequestBody).setContent jsonContent schema

/-- The body that allows any object. -/
def anyObject : RequestBody :=
  json (.make .object)

/-- A body by its fields, with given content. -/
def read (content : Listing Schema) (fields : List (Value × Value)) : Checked RequestBody :=
  (fun description => ⟨description, Listing.ofPairs content⟩)
    <$> Value.withDefault fields "description" Value.readText ""

end RequestBody

/-- The code of a response. -/
inductive Code
  | number (n : Int)
  | word (s : String)
  deriving DecidableEq, Repr

namespace Code

/-- The text of a code. -/
def text : Code → String
  | number n => toString n
  | word s => s

/-- A code: a number, a truth value as 0 or 1, a number without fraction, or a text. A value that
is none of these has one defect as a number and one as a text. -/
def read : Value → Checked Code
  | .int n => .accepted (.number n)
  | .text s => .accepted (.word s)
  | value =>
    match Value.readWhole value with
    | .accepted n => .accepted (.number n)
    | .rejected first more =>
      .rejected (first.under (.field "int"))
        (more.map (·.under (.field "int")) ++ [⟨[.field "str"], .notText⟩])

end Code

/-- A response of an operation. -/
structure Response where
  code : Code
  description : String := ""
  content : Listing Schema := []

namespace Response

/-- A response as a value. -/
def tree (r : Response) : Value :=
  .record (("description", .text r.description)
    :: if r.content.isEmpty then [] else [("content", contentTree r.content)])

/-- A response by its fields, with given content. -/
def read (content : Listing Schema) (fields : List (Value × Value)) : Checked Response :=
  (fun code description => ⟨code, description, Listing.ofPairs content⟩)
    <$> Value.required fields "code" Code.read
    <*> Value.withDefault fields "description" Value.readText ""

end Response

/-- What a document says about one method of one path. -/
structure Operation where
  method : String
  tags : List String := []
  summary : String := ""
  description : String := ""
  parameters : List Parameter := []
  requestBody : Option RequestBody := none
  responses : List Response := []

namespace Operation

/-- The operation with further parameters. One whose name and place are taken stands in the place
of the earlier one. -/
def addParameters (op : Operation) (parameters : List Parameter) : Operation :=
  { op with parameters := Parameter.enterAll op.parameters parameters }

/-- The operation with one more response. -/
def addResponse (op : Operation) (response : Response) : Operation :=
  { op with responses := op.responses ++ [response] }

/-- The operation with another body. -/
def setBody (op : Operation) (body : RequestBody) : Operation :=
  { op with requestBody := some body }

/-- An operation as a value. -/
def tree (op : Operation) : Value :=
  .record ([("tags", .texts op.tags), ("summary", .text op.summary),
      ("description", .text op.description), ("parameters", .list (op.parameters.map (·.tree)))]
    ++ (match op.requestBody with
      | some body => [("requestBody", body.tree)]
      | none => [])
    ++ [("responses", .record (Listing.ofPairs
        (op.responses.map fun response => (response.code.text, response.tree))))])

/-- An operation by its scalar fields and its tags, without parameters, body and responses. -/
def read (fields : List (Value × Value)) : Checked Operation :=
  (fun method tags summary description => { method, tags, summary, description : Operation })
    <$> Value.required fields "method" Value.readText
    <*> Value.withDefault fields "tags" Value.readTexts []
    <*> Value.withDefault fields "summary" Value.readText ""
    <*> Value.withDefault fields "description" Value.readText ""

end Operation

end RouteAtlas
