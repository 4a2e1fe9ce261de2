/-
Documentation blocks of classes and methods.

* `DocParam`, `DocBlock`: what is said about a parameter, and about a class or a method.
* `DocBlock.paramsByName`: the parameters by name, without the sign that marks variables; the last
  one of a name counts.
* `DocBlock.tagList`: the tags of the first annotation, which are separated by commas.
-/
import RouteAtlas.Value.Reading
import RouteAtlas.Text.Pieces

namespace RouteAtlas

/-- What a documentation block says about a parameter. -/
structure DocParam where
  name : String
  typeName : Option String := none
  description : String := ""
  deriving DecidableEq, Repr

namespace DocParam

/-- The name without dollar signs. -/
def key (p : DocParam) : String :=
  String.ofList (p.name.toList.filter (· != '$'))

/-- A documented parameter by its fields. -/
def read (fields : List (Value × Value)) : Checked DocParam :=
  DocParam.mk
    <$> Value.required fields "name" Value.readText
    <*> Value.withDefault fields "type" (Value.readOptional Value.readText) none
    <*> Value.withDefault fields "description" Value.readText ""

/-- A documented parameter as a value. -/
def toValue (p : DocParam) : Value :=
  .record [("name", .text p.name), ("type", .ofText? p.typeName),
    ("description", .text p.description)]

end DocParam

/-- The documentation of a class or a method. -/
structure DocBlock where
  summary : String := ""
  description : String := ""
  params : List DocParam := []
  /-- The annotations that name tags, each with commas between them. -/
  tags : List String := []
  deriving DecidableEq, Repr, Inhabited

namespace DocBlock

/-- The documented parameters by name. -/
def paramsByName (d : DocBlock) : Listing DocParam :=
  Listing.ofPairs (d.params.map fun p => (p.key, p))

/-- The tags of the first annotation. -/
def tagList (d : DocBlock) : List String :=
  match d.tags with
  | [] => []
  | first :: _ => (Text.splitOn ',' first.toList).map String.ofList

/-- A documentation block by its fields. -/
def read (fields : List (Value × Value)) : Checked DocBlock :=
  DocBlock.mk
    <$> Value.withDefault fields "summary" Value.readText ""
    <*> Value.withDefault fields "description" Value.readText ""
    <*> Value.withDefault fields "params" (Value.readList (Value.readRecord DocParam.read)) []
    <*> Value.withDefault fields "tags" Value.readTexts []

/-- A documentation block as a value. -/
def toValue (d : DocBlock) : Value :=
  .record [("summary", .text d.summary), ("description", .text d.description),
    ("params", .list (d.params.map DocParam.toValue)), ("tags", .texts d.tags)]

end DocBlock

end RouteAtlas
