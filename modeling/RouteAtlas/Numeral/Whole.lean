/-
Whole numbers as they are written and as they are typed.

* `Whole.ofDigits`: a whole number from decimal digits, the number of which is limited.
* `Whole.read`: a whole number in a base, with white space around it, a sign, and the mark of the
  base in front of the digits. In base ten the number of digits is limited.
* `Whole.readTyped`: a decimal whole number as people type it: with zeros in front, underscores
  between digits, and a point followed by zeros behind.
-/
import RouteAtlas.Numeral.Decimal
import RouteAtlas.Text.Pieces

namespace RouteAtlas.Whole

open RouteAtlas.Text (isSpace trim cutFirst?)

/-! ### Numbers in a base -/

/-- Whether a character is a digit of a base up to sixteen, capitals included. -/
def isDigitIn (base : Nat) (c : Char) : Bool :=
  (c.isDigit || ('a' ≤ c.toLower && c.toLower ≤ 'f')) && numberOfDigits.digitIn c < base

/-- The letter in the mark of a base. -/
def markOf? : Nat → Option Char
  | 2 => some 'b'
  | 8 => some 'o'
  | 16 => some 'x'
  | _ => none

/-- A text without the mark of the base in front of it: a zero and a letter. -/
def withoutMark (base : Nat) : List Char → List Char
  | '0' :: c :: rest => if markOf? base = some c.toLower then rest else '0' :: c :: rest
  | cs => cs

/-- The number that decimal digits show, unless there are too many of them. -/
def ofDigits (digits : List Char) : Except NumeralFault Nat :=
  if NumeralFault.digitLimit < digits.length then .error (.tooLong digits.length)
  else .ok (numberOfDigits 10 digits)

/-- A number with a sign. -/
def signed (negative : Bool) (n : Nat) : Int :=
  if negative then -(n : Int) else n

/-- The whole number that a text shows in a base. -/
def read (base : Nat) (cs : List Char) : Except NumeralFault Int :=
  let (negative, unsigned) := cutSign ((trim isSpace cs).map plainDigit)
  let digits := withoutMark base unsigned
  let count := (digits.takeWhile Char.isDigit).length
  if base = 10 && NumeralFault.digitLimit < count then .error (.tooLong count)
  else if digits.isEmpty || !digits.all (isDigitIn base) then .error (.notWhole base cs)
  else .ok (signed negative (numberOfDigits base digits))

/-! ### Typed numbers -/

/-- A text behind the zeros and underscores that follow its first zero. A point keeps the character
in front of it, and so does the end of the text. -/
def afterZeros? (last : Char) : List Char → Option (List Char)
  | [] => some [last]
  | c :: rest =>
    if c = '0' || c = '_' then afterZeros? c rest
    else if c.isDigit || c = '-' then some (c :: rest)
    else if c = '.' then some (last :: c :: rest)
    else none

/-- A text without the zeros in front of it. It starts with a digit or with a minus. -/
def withoutZeros? : List Char → Option (List Char)
  | [] => none
  | c :: rest =>
    if c = '0' then afterZeros? c rest
    else if c.isDigit || c = '-' then some (c :: rest)
    else none

/-- A text without a fraction of zeros, of which there is at least one. -/
def withoutFraction? (cs : List Char) : Option (List Char) :=
  match cutFirst? '.' cs with
  | some (whole, zeros) =>
    if !zeros.isEmpty && zeros.all (· == '0') then some whole else none
  | none => some cs

/-- A text without its underscores, if each of them stands alone between other characters. -/
def withoutUnderscores (cs : List Char) : List Char :=
  if cs.head? = some '_' || cs.getLast? = some '_' || Text.contains ['_', '_'] cs then cs
  else cs.filter (· != '_')

/-- A text without the plus in front of it, behind which no minus may stand. -/
def withoutPlus? : List Char → Option (List Char)
  | '+' :: '-' :: _ => none
  | '+' :: rest => some rest
  | cs => some cs

/-- The digits that a typed number is reduced to, perhaps behind a minus. -/
def typedDigits? (cs : List Char) : Option (List Char) := do
  let unsigned ← withoutPlus? (trim isSpace cs)
  let plain ← withoutZeros? unsigned
  let whole ← withoutFraction? plain
  some (withoutUnderscores whole)

/-- The whole number that a typed text shows. -/
def readTyped (cs : List Char) : Except NumeralFault Int :=
  match typedDigits? cs with
  | none => .error (.notWhole 10 cs)
  | some plain =>
    let (negative, digits) := match plain with
      | '-' :: digits => (true, digits)
      | digits => (false, digits)
    if digits.isEmpty || !digits.all Char.isDigit then .error (.notWhole 10 cs)
    else if NumeralFault.digitLimit < plain.length then .error (.tooLong digits.length)
    else .ok (signed negative (numberOfDigits 10 digits))

end RouteAtlas.Whole
