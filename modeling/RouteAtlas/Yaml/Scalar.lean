/-
The values of scalars under their tags.

* `integerOf`: integers in bases two, eight, ten, sixteen and sixty.
* `floatOf`: floating-point numbers, also in base sixty.
* `truthOf`: truth values by their words in upper or lower case.
* `momentOf`: days and moments.
* `bytesOf`: bytes in base 64.
* `scalarValue`: the value of a text under a tag.

The underscores of a number are dropped before it is read, and at most one sign is taken off in
front of it; what is left is read by the rules of numerals, which allow a sign of their own.
-/
import RouteAtlas.Text.Base64
import RouteAtlas.Text.Lowercase
import RouteAtlas.Yaml.Tag

namespace RouteAtlas.Yaml

open RouteAtlas.Text (splitOn)

/-! ### Numbers -/

/-- The characters without underscores. -/
def withoutUnderscores (cs : List Char) : List Char :=
  cs.filter (· != '_')

/-- The result of reading a numeral. -/
def ofNumeral {α : Type} : Except NumeralFault α → Except Fault α
  | .ok a => .ok a
  | .error cause => .error (.numeral cause)

/-- A whole number in a base. -/
def wholeIn (base : Nat) (cs : List Char) : Except Fault Int :=
  ofNumeral (Whole.read base cs)

/-- The integer that a text without sign and underscores shows. A leading zero asks for base eight,
colons for base sixty. -/
def magnitudeOf : List Char → Except Fault Int
  | [] => .error .emptyNumeral
  | ['0'] => .ok 0
  | '0' :: 'b' :: rest => wholeIn 2 rest
  | '0' :: 'x' :: rest => wholeIn 16 rest
  | '0' :: rest => wholeIn 8 ('0' :: rest)
  | cs => do
    let places ← (splitOn ':' cs).mapM (wholeIn 10)
    .ok (places.foldl (fun n place => n * 60 + place) 0)

/-- The integer that a text shows. -/
def integerOf (cs : List Char) : Except Fault Int := do
  let plain := withoutUnderscores cs
  let (negative, unsigned) := cutSign plain
  let n ← magnitudeOf unsigned
  .ok (if negative then -n else n)

/-- The floating-point number of an integer, unless it is too large. -/
def floatOfWhole (n : Nat) : Except Fault Binary64 :=
  let x := Binary64.ofRatio false n 1
  if x.isFinite then .ok x else .error .outOfRange

/-- The value of the places of a number in base sixty, the last one first, of which the first is
worth `unit`, on top of `sum`. -/
def sumOfSixties (unit : Nat) : List Binary64 → Binary64 → Except Fault Binary64
  | [], sum => .ok sum
  | place :: places, sum => do
    let worth ← floatOfWhole unit
    sumOfSixties (unit * 60) places (sum.add (place.mul worth))

/-- The value with a sign. -/
def withSign (negative : Bool) (x : Binary64) : Binary64 :=
  x.mul (Binary64.ofRatio negative 1 1)

/-- The floating-point number that a text shows. -/
def floatOf (cs : List Char) : Except Fault Binary64 := do
  let plain := Text.lower (withoutUnderscores cs)
  let (negative, unsigned) := cutSign plain
  if plain.isEmpty then .error .emptyNumeral
  else if unsigned = ".inf".toList then .ok (Binary64.infinity negative)
  else if unsigned = ".nan".toList then .ok Binary64.invalid
  else if unsigned.contains ':' then
    let places ← (splitOn ':' unsigned).mapM fun place => ofNumeral (Binary64.read place)
    .ok (withSign negative (← sumOfSixties 1 places.reverse (Binary64.zero false)))
  else .ok (withSign negative (← ofNumeral (Binary64.read unsigned)))

/-! ### Words, days and bytes -/

/-- The words for truth values, in lower case. -/
def truthWords : List (String × Bool) :=
  [("yes", true), ("no", false), ("true", true), ("false", false), ("on", true), ("off", false)]

/-- The truth value that a text names. -/
def truthOf (text : String) : Except Fault Bool :=
  match truthWords.lookup (Text.lowerString text) with
  | some b => .ok b
  | none => .error .unknownTruthWord

/-- The result of naming a day or a moment. -/
def ofCalendar {α : Type} : Except CalendarFault α → Except Fault α
  | .ok a => .ok a
  | .error cause => .error (.calendar cause)

/-- Digits of a fraction of a second as microseconds; six of them count. -/
def microseconds (fraction : List Char) : Nat :=
  numberOfDigits 10 ((fraction ++ List.replicate 6 '0').take 6)

/-- The day or the moment that a text shows. Of several numbers out of range the distance from
universal time is met first, then those of the day, then those of the time. -/
def momentOf (cs : List Char) : Except Fault Value :=
  match momentForm? (withoutLineFeed cs) with
  | none => .error .notAMoment
  | some (d, none) => do .ok (.date (← ofCalendar (Day.of d.year d.month d.date)))
  | some (d, some c) => do
    let zone ← match c.zone with
      | some minutes => do pure (some (← ofCalendar (Moment.zoneOf minutes)))
      | none => pure none
    let day ← ofCalendar (Day.of d.year d.month d.date)
    .ok (.moment
      (← ofCalendar (Moment.of day c.hour c.minute c.second (microseconds c.fraction) zone)))

/-- The bytes that a text shows; it consists of characters of ASCII. -/
def bytesOf (cs : List Char) : Except Fault (List UInt8) :=
  match if cs.all (·.toNat < 128) then Text.Base64.decode? cs else none with
  | some bytes => .ok bytes
  | none => .error .malformed

/-! ### Scalars -/

/-- The value of a text under a tag. Tags of collections and keys have none. -/
def scalarValue (tag : Tag) (text : String) : Except Fault Value :=
  match tag with
  | .null => .ok .null
  | .bool => (truthOf text).map .bool
  | .int => (integerOf text.toList).map .int
  | .float => (floatOf text.toList).map .float
  | .binary => (bytesOf text.toList).map .bytes
  | .timestamp => momentOf text.toList
  | .str => .ok (.text text)
  | _ => .error .malformed

end RouteAtlas.Yaml
