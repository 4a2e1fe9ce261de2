/-
Decimal numerals: an optional sign, digits with an optional point, an optional exponent.

* `Decimal`: a numeral, as an integer significand and a power of ten.
* `Decimal.ofChars?`: the reading of a numeral in the digits of ASCII.
* `Decimal.toBinary64`: the nearest floating-point number.
* `Binary64.ofChars?`, `Binary64.read`: numerals as they are typed, with white space around them,
  underscores between digits, digits of any script, and words for infinity and for no number.
-/
import RouteAtlas.Text.Blank
import RouteAtlas.Text.Digit
import RouteAtlas.Numeral.Binary64
import RouteAtlas.Numeral.NumeralFault

namespace RouteAtlas

open RouteAtlas.Text (isSpace trim digitValue?)

/-- The numeral with the value `significand * 10 ^ exponent`, or its opposite. -/
structure Decimal where
  negative : Bool
  significand : Nat
  exponent : Int
  deriving Repr, DecidableEq

/-- The number that a row of digits of ASCII shows in base `base`. -/
def numberOfDigits (base : Nat) (digits : List Char) : Nat :=
  digits.foldl (fun n c => n * base + digitIn c) 0
where
  /-- The value of a digit, letters included. -/
  digitIn (c : Char) : Nat :=
    if c.isDigit then c.toNat - 48 else c.toLower.toNat - 87

/-- A sign and what follows it; without a sign the number is positive. -/
def cutSign : List Char → Bool × List Char
  | '-' :: rest => (true, rest)
  | '+' :: rest => (false, rest)
  | cs => (false, cs)

/-- The exponent of a numeral: nothing, or the letter `e` and a whole number. -/
def exponentOfChars? : List Char → Option Int
  | [] => some 0
  | c :: rest =>
    let (negative, digits) := cutSign rest
    if (c = 'e' || c = 'E') && !digits.isEmpty && digits.all Char.isDigit then
      let n : Int := numberOfDigits 10 digits
      some (if negative then -n else n)
    else none

namespace Decimal

/-- The reading of a numeral: an optional sign, digits among which one point may stand, and an
optional exponent. There is at least one digit before the exponent. -/
def ofChars? (cs : List Char) : Option Decimal :=
  let (negative, unsigned) := cutSign cs
  let whole := unsigned.takeWhile Char.isDigit
  let afterWhole := unsigned.dropWhile Char.isDigit
  let (fraction, rest) := match afterWhole with
    | '.' :: more => (more.takeWhile Char.isDigit, more.dropWhile Char.isDigit)
    | _ => ([], afterWhole)
  if whole.isEmpty && fraction.isEmpty then none
  else
    (exponentOfChars? rest).map fun exponent =>
      ⟨negative, numberOfDigits 10 (whole ++ fraction), exponent - fraction.length⟩

/-- The floating-point number nearest to a numeral. Numerals far beyond the largest or below the
smallest number are decided by their exponent alone. -/
def toBinary64 (d : Decimal) : Binary64 :=
  if d.significand = 0 || d.exponent < -(400 + d.significand.log2 : Int) then
    Binary64.ofRatio d.negative 0 1
  else if 400 < d.exponent then
    Binary64.infinity d.negative
  else
    Binary64.ofRatio d.negative (d.significand * Nat.pow 10 d.exponent.toNat)
      (Nat.pow 10 (-d.exponent).toNat)

end Decimal

/-- A text without the underscores between its digits; an underscore anywhere else is refused.
`afterDigit` says whether a digit stands before the text. -/
def dropUnderscores? (afterDigit : Bool) : List Char → Option (List Char)
  | [] => some []
  | c :: rest =>
    if c = '_' then
      if afterDigit && rest.head?.any Char.isDigit then dropUnderscores? false rest else none
    else
      (dropUnderscores? c.isDigit rest).map (c :: ·)

/-- A digit of any script as the digit of ASCII with its value; any other character as it is. -/
def plainDigit (c : Char) : Char :=
  ((digitValue? c).map Nat.digitChar).getD c

namespace Binary64

/-- The reading of a floating-point number as it is typed. -/
def ofChars? (cs : List Char) : Option Binary64 :=
  (dropUnderscores? false ((trim isSpace cs).map plainDigit)).bind fun plain =>
    let (negative, word) := cutSign plain
    let word := word.map Char.toLower
    if word = "inf".toList || word = "infinity".toList then some (infinity negative)
    else if word = "nan".toList then some (notANumber negative)
    else (Decimal.ofChars? plain).map Decimal.toBinary64

/-- The number that a text shows as it is typed. -/
def read (cs : List Char) : Except NumeralFault Binary64 :=
  match ofChars? cs with
  | some x => .ok x
  | none => .error (.notNumber cs)

end Binary64

end RouteAtlas
