/-
Texts given by code points in which surrogate halves may stand.

* `ofCodePoints`: a high half followed by a low one is the character that the pair encodes; a half
  that stands alone is no character and becomes the replacement character.
-/
namespace RouteAtlas.Text

/-- The high half of a surrogate pair. -/
def isHighHalf (n : Nat) : Bool :=
  0xD800 ≤ n && n ≤ 0xDBFF

/-- The low half of a surrogate pair. -/
def isLowHalf (n : Nat) : Bool :=
  0xDC00 ≤ n && n ≤ 0xDFFF

/-- The character of a code point; a lone surrogate half becomes the replacement character. -/
def ofCodePoint (n : Nat) : Char :=
  if isHighHalf n || isLowHalf n then Char.ofNat 0xFFFD else Char.ofNat n

/-- The text of a list of code points, in which a high half followed by a low one is the character
that the pair encodes. -/
def ofCodePoints : List Nat → List Char
  | [] => []
  | [n] => [ofCodePoint n]
  | n :: m :: rest =>
    if isHighHalf n && isLowHalf m then
      Char.ofNat (0x10000 + (n - 0xD800) * 0x400 + (m - 0xDC00)) :: ofCodePoints rest
    else
      ofCodePoint n :: ofCodePoints (m :: rest)

end RouteAtlas.Text
