/-
Files that settings and routes are read from.

* `SourceFile`: what stands under a name.
* `SourceFile.text?`: the text of the bytes of a file, with every line end as a line feed.
* `SourceFile.suffix`: the suffix of the last part of a path, in lower case.
* `Readers`: how texts of the two formats are read.
-/
import RouteAtlas.Json
import RouteAtlas.Yaml
import RouteAtlas.Text.Lowercase

namespace RouteAtlas

/-- What stands under the name of a file. -/
inductive SourceFile
  | missing
  | directory
  | content (bytes : ByteArray)

/-- A format of files. -/
inductive Format
  | json
  | yaml
  deriving DecidableEq, Repr

/-- How texts of the two formats are read. -/
structure Readers where
  json : String → Except Fault Value
  yaml : String → Except Fault Value

/-- The readers of this library. -/
def Readers.standard : Readers :=
  ⟨Json.read, Yaml.read⟩

namespace SourceFile

/-- A text with every line end as a line feed. -/
def unifyLineEnds : List Char → List Char
  | '\r' :: '\n' :: rest => '\n' :: unifyLineEnds rest
  | '\r' :: rest => '\n' :: unifyLineEnds rest
  | c :: rest => c :: unifyLineEnds rest
  | [] => []

/-- The text of the bytes of a file, if they are one. -/
def text? (bytes : ByteArray) : Option String :=
  (String.fromUTF8? bytes).map fun text => String.ofList (unifyLineEnds text.toList)

/-- The last part of a path. Empty parts and single points do not count. -/
def lastPart (path : String) : List Char :=
  let parts := (Text.splitOn '/' path.toList).filter fun part => part != [] && part != ['.']
  parts.getLast?.getD []

/-- The suffix of the last part of a path, in lower case: the last point and what follows it, if
there is something on both sides. -/
def suffix (path : String) : String :=
  match Text.cutLast? '.' (lastPart path) with
  | some (stem, rest) =>
    if stem.isEmpty || rest.isEmpty then "" else String.ofList (Text.lower ('.' :: rest))
  | none => ""

/-- The format that a suffix tells. -/
def formatOf? (path : String) : Option Format :=
  match suffix path with
  | ".json" => some .json
  | ".yaml" | ".yml" => some .yaml
  | _ => none

end SourceFile

end RouteAtlas
