/-
A text between quotation marks.

* `hexDigits`: a number in base sixteen with leading zeros.
* `quoted`: the apostrophe is the mark, unless the text holds apostrophes and no double quotes.
  Inside, the mark and the backslash follow a backslash, and a character that is not printable is
  shown by a letter or by its code point.
* `quotedBytes`: a row of bytes by the same rule, of which only those of ASCII are printable.
-/
import RouteAtlas.Text.Printable

namespace RouteAtlas.Text

/-- The lowest `width` digits of a number in base sixteen, in lower case. -/
def hexDigits : (width n : Nat) → List Char
  | 0, _ => []
  | width + 1, n => hexDigits width (n / 16) ++ [Nat.digitChar (n % 16)]

/-- How a character is shown between two marks `mark`. -/
def quotedChar (mark c : Char) : List Char :=
  if c = mark || c = '\\' then ['\\', c]
  else if c = '\t' then ['\\', 't']
  else if c = '\n' then ['\\', 'n']
  else if c = '\r' then ['\\', 'r']
  else if isPrintable c then [c]
  else if c.toNat ≤ 0xFF then '\\' :: 'x' :: hexDigits 2 c.toNat
  else if c.toNat ≤ 0xFFFF then '\\' :: 'u' :: hexDigits 4 c.toNat
  else '\\' :: 'U' :: hexDigits 8 c.toNat

/-- The mark that a text is written between: an apostrophe, unless the text holds apostrophes and
no double quotes. -/
def quotationMark (cs : List Char) : Char :=
  if cs.contains '\x27' && !cs.contains '\x22' then '\x22' else '\x27'

/-- A text between quotation marks. -/
def quoted (s : String) : String :=
  let mark := quotationMark s.toList
  String.ofList (mark :: s.toList.flatMap (quotedChar mark) ++ [mark])

/-- How a byte is shown between two marks `mark`. -/
def quotedByte (mark : Char) (b : UInt8) : List Char :=
  let c := Char.ofNat b.toNat
  if b < 0x80 then quotedChar mark c else '\\' :: 'x' :: hexDigits 2 b.toNat

/-- A row of bytes between quotation marks. -/
def quotedBytes (bytes : List UInt8) : String :=
  let mark := quotationMark (bytes.map fun b => Char.ofNat b.toNat)
  String.ofList ('b' :: mark :: bytes.flatMap (quotedByte mark) ++ [mark])

end RouteAtlas.Text
