/-
Sets of characters given by ranges of code points.

* `inRanges`: membership; both ends of a range belong to it.
-/
namespace RouteAtlas.Text

/-- Whether the code point of a character lies in one of the ranges, both ends included. -/
def inRanges (ranges : List (Nat × Nat)) (c : Char) : Bool :=
  ranges.any fun range => range.1 ≤ c.toNat && c.toNat ≤ range.2

end RouteAtlas.Text
