/-
The shortest numerals that read back as a floating-point number.

* `Shortest.decimal?`: of the numerals with the fewest digits that read back as a number, the one
  that is nearest to it.
* `Shortest.text`: the text of a number. It has a point unless the exponent is written, which it is
  from ten to the 16th on and below one ten-thousandth.
-/
import RouteAtlas.Numeral.Decimal

namespace RouteAtlas.Shortest

/-- Whether a numeral reads back as the positive number of a word. -/
def readsBack (word : Nat) (d : Decimal) : Bool :=
  d.toBinary64.word.toNat == word

/-- Of two numerals one unit apart, the one that reads back; if both do, the one that is nearer to
the number, which lies `rest / unit` above the first. -/
def choose (word : Nat) (low high : Decimal) (rest unit : Nat) : Option Decimal :=
  if readsBack word low && readsBack word high then
    some (if 2 * rest < unit || (2 * rest = unit && low.significand % 2 = 0) then low else high)
  else if readsBack word low then some low
  else if readsBack word high then some high
  else none

/-- A numeral that reads back as the positive number `num / den`, with its last digit at the place
of ten to the `exponent`. -/
def atPlace? (word num den : Nat) (exponent : Int) : Option Decimal :=
  let scaled := num * Nat.pow 10 (-exponent).toNat
  let unit := den * Nat.pow 10 exponent.toNat
  choose word ⟨false, scaled / unit, exponent⟩ ⟨false, scaled / unit + 1, exponent⟩
    (scaled % unit) unit

/-- The first numeral that reads back, with its last digit at one of `steps` places from
`exponent` downwards. -/
def search (word num den : Nat) (exponent : Int) : Nat → Option Decimal
  | 0 => none
  | steps + 1 =>
    (atPlace? word num den exponent).or (search word num den (exponent - 1) steps)

/-- The shortest numeral for the positive number of a word. The search starts above the place of the
first digit, to which the number may be rounded up; seventeen digits always read back. -/
def decimal? (word : Nat) : Option Decimal :=
  let k := Binary64.lastPlace word
  let num := Binary64.significand word * Nat.pow 2 k.toNat
  let den := Nat.pow 2 (-k).toNat
  let start : Int := (Nat.toDigits 10 num).length - (Nat.toDigits 10 den).length + 1
  search word num den start 20

/-- A number with a sign and at least two digits. -/
def exponentText (e : Int) : String :=
  let digits := toString e.natAbs
  (if e < 0 then "-" else "+") ++ (if digits.length < 2 then "0" else "") ++ digits

/-- The text of a positive numeral. -/
def decimalText (d : Decimal) : String :=
  let digits := Nat.toDigits 10 d.significand
  let count : Int := digits.length
  let first := count + d.exponent - 1
  if first < -4 || 16 ≤ first then
    let fraction := digits.drop 1
    String.ofList (digits.take 1 ++ if fraction.isEmpty then [] else '.' :: fraction)
      ++ "e" ++ exponentText first
  else if first < 0 then
    "0." ++ String.ofList (List.replicate (-first - 1).toNat '0' ++ digits)
  else
    let whole := digits.take (first + 1).toNat
    let fraction := digits.drop (first + 1).toNat
    String.ofList (whole ++ List.replicate (first + 1 - count).toNat '0' ++ '.' ::
      if fraction.isEmpty then ['0'] else fraction)

/-- The text of a floating-point number. -/
def text (x : Binary64) : String :=
  if x.isNaN then "nan"
  else
    (if x.isNegative then "-" else "") ++
      if !x.isFinite then "inf"
      else if x.isZero then "0.0"
      else ((decimal? x.size).map decimalText).getD ""

end RouteAtlas.Shortest
