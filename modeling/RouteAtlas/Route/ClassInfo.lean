/-
Handler classes, and what names mean inside them.

* `ClassInfo.separator`, `ClassInfo.basename`, `ClassInfo.scope`: the parts of the full name of a
  class.
* `ClassInfo.resolve`: the full name of a class that is named inside another: an absolute name, one
  that starts with an imported alias, or one of the same namespace.
-/
import RouteAtlas.Route.DocBlock

namespace RouteAtlas

/-- A handler class. -/
structure ClassInfo where
  name : String
  /-- The full names of aliases. -/
  imports : Listing String := []
  doc : Option DocBlock := none
  deriving DecidableEq, Repr

namespace ClassInfo

/-- The character between the segments of the name: a backslash if the name has one, else a dot. -/
def separator (c : ClassInfo) : Char :=
  if c.name.toList.contains '\\' then '\\' else '.'

/-- The last segment of the name. -/
def basename (c : ClassInfo) : String :=
  match Text.cutLast? c.separator c.name.toList with
  | some (_, last) => String.ofList last
  | none => c.name

/-- The name without its last segment; empty if there is only one. -/
def scope (c : ClassInfo) : String :=
  match Text.cutLast? c.separator c.name.toList with
  | some (scope, _) => String.ofList scope
  | none => ""

/-- The full name of what is called `name` inside a class. -/
def resolve (c : ClassInfo) (name : String) : String :=
  let sep := c.separator
  if name.toList.head? = some sep then
    String.ofList (name.toList.dropWhile (· == sep))
  else
    let (first, rest) := match Text.cutFirst? sep name.toList with
      | some (first, rest) => (String.ofList first, String.ofList (sep :: rest))
      | none => (name, "")
    match c.imports.get? first with
    | some full => full ++ rest
    | none => if c.scope = "" then name else c.scope ++ String.singleton sep ++ name

/-- The name of the class as a tag: its last segment without the word for controllers. -/
def tag (c : ClassInfo) : String :=
  String.ofList (Text.replaceAll "Controller".toList [] c.basename.toList)

/-- A class by its fields. -/
def read (fields : List (Value × Value)) : Checked ClassInfo :=
  ClassInfo.mk
    <$> Value.required fields "name" Value.readText
    <*> Value.withDefault fields "imports" (Value.readMapping Value.readText) []
    <*> Value.withDefault fields "doc" (Value.readOptional (Value.readRecord DocBlock.read)) none

/-- A class as a value. -/
def toValue (c : ClassInfo) : Value :=
  .record [("name", .text c.name),
    ("imports", .record (c.imports.map fun entry => (entry.1, .text entry.2))),
    ("doc", (c.doc.map DocBlock.toValue).getD .null)]

end ClassInfo

end RouteAtlas
