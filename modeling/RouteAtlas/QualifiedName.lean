/-
Names in namespaces.

A name is a row of segments with a dot or a backslash between them; empty segments say nothing.

* `QualifiedName.segments`: the segments of a name.
* `QualifiedName.dotted`: the name with single dots between its segments.
-/
import RouteAtlas.Text.Pieces

namespace RouteAtlas.QualifiedName

/-- A character that stands between the segments of a name. -/
def isSeparator (c : Char) : Bool :=
  c == '\\' || c == '.'

/-- The segments of a name. -/
def segments (name : String) : List String :=
  (Text.segments isSeparator name.toList).map String.ofList

/-- The name with single dots between its segments. -/
def dotted (name : String) : String :=
  ".".intercalate (segments name)

end RouteAtlas.QualifiedName
