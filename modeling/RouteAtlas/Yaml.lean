/-
Reading YAML texts as values.

* `read`: the value of the one document of a text. Faults of the grammar go before those of the
  values.
-/
import RouteAtlas.Yaml.Document
import RouteAtlas.Yaml.Shape

namespace RouteAtlas.Yaml

/-- The number of levels for which nodes that stand inside themselves are followed. -/
def followedLevels : Nat := 10

/-- The value of a document. -/
def Document.value (d : Document) : Except Fault Value := do
  let shaping ← Shaping.run d.graph d.root
  .ok ((shaping.values (if d.isShared then followedLevels else 1)).getD d.root .null)

/-- The value of the document of a text. Line ends are expected as line feeds. -/
def read (text : String) : Except Fault Value := do
  (← Document.ofTokens (TokenStream.of text.toList)).value

end RouteAtlas.Yaml
