/-
Tags of nodes.

* `Tag`: what a node is, as far as the standard set of tags tells it.
* `Tag.ofName`: the tag of a full name.
* `Tag.ofForm`: the tag of a plain scalar. Words for null and for truth values, integers in four
  bases and in base sixty, decimal numbers with a point, days and moments have their own forms; a
  line feed at the end of a form does not count. Any other scalar is a text.
-/
import RouteAtlas.Json
import RouteAtlas.Text.Pieces
import RouteAtlas.Yaml.Cursor

namespace RouteAtlas.Yaml

open RouteAtlas.Text (splitOn cutFirst?)

/-- What a node is. -/
inductive Tag
  | null
  | bool
  | int
  | float
  | binary
  | timestamp
  | str
  | seq
  | map
  | set
  /-- A mapping as a row of pairs. -/
  | omap
  | pairs
  /-- A key under which the entries of other mappings stand. -/
  | merge
  /-- A key under which the value stands that a mapping has as a scalar. -/
  | value
  /-- A tag outside the standard set, or one without values. -/
  | other
  deriving DecidableEq, Repr, Inhabited

/-- What the names of the standard set start with. -/
def standardTag : String := "tag:yaml.org,2002:"

namespace Tag

/-- The tags that can be given by name. -/
def named : List (String × Tag) :=
  [("null", null), ("bool", bool), ("int", int), ("float", float), ("binary", binary),
    ("timestamp", timestamp), ("str", str), ("seq", seq), ("map", map), ("set", set),
    ("omap", omap), ("pairs", pairs), ("merge", merge), ("value", value)]

/-- The tag of a full name. -/
def ofName (name : String) : Tag :=
  ((named.map fun entry => (standardTag ++ entry.1, entry.2)).lookup name).getD other

end Tag

/-! ### Forms of numbers -/

/-- Whether a text is not empty and consists of characters of a class and underscores. -/
def isRowOf (p : Char → Bool) (cs : List Char) : Bool :=
  !cs.isEmpty && cs.all fun c => p c || c == '_'

/-- Whether a text is a digit followed by digits and underscores. -/
def isDigits (cs : List Char) : Bool :=
  cs.head?.any Char.isDigit && isRowOf Char.isDigit cs

/-- Whether a text is a place of a number in base sixty behind the first. -/
def isSixtieth : List Char → Bool
  | [c] => c.isDigit
  | [c, d] => '0' ≤ c && c ≤ '5' && d.isDigit
  | _ => false

/-- Whether a text has the form of an integer without a sign. -/
def isNatural : List Char → Bool
  | ['0'] => true
  | '0' :: 'b' :: rest => isRowOf (fun c => c == '0' || c == '1') rest
  | '0' :: 'x' :: rest => isRowOf Json.isHexDigit rest
  | '0' :: rest => isRowOf (fun c => '0' ≤ c && c ≤ '7') rest
  | cs =>
    match splitOn ':' cs with
    | whole :: places => isDigits whole && places.all isSixtieth
    | [] => false

/-- Whether a text has the form of an integer. -/
def isInteger (cs : List Char) : Bool :=
  isNatural (cutSign cs).2

/-- Whether a text is an exponent with a sign, or empty. -/
def isExponent : List Char → Bool
  | [] => true
  | c :: sign :: digits =>
    (c == 'e' || c == 'E') && (sign == '-' || sign == '+') && !digits.isEmpty
      && digits.all Char.isDigit
  | _ => false

/-- Whether a text is a number with a point and perhaps an exponent. Only without digits in front
of the point must one follow it. -/
def isPointed (cs : List Char) : Bool :=
  match cutFirst? '.' cs with
  | some (whole, rest) =>
    let fraction := rest.takeWhile fun c => c.isDigit || c == '_'
    isExponent (rest.drop fraction.length)
      && (isDigits whole || (whole.isEmpty && isDigits fraction))
  | none => false

/-- Whether a text is a number in base sixty with a point. -/
def isPointedSixties (cs : List Char) : Bool :=
  match cutFirst? '.' cs with
  | some (whole, rest) =>
    match splitOn ':' whole with
    | first :: places =>
      isDigits first && !places.isEmpty && places.all isSixtieth
        && rest.all fun c => c.isDigit || c == '_'
    | [] => false
  | none => false

/-- Whether a text has the form of a floating-point number. A point without digits in front of it
and the words for no number take no sign. -/
def isFloat (cs : List Char) : Bool :=
  let unsigned := (cutSign cs).2
  let isSigned := unsigned.length < cs.length
  [".inf", ".Inf", ".INF"].contains (String.ofList unsigned)
    || (!isSigned && [".nan", ".NaN", ".NAN"].contains (String.ofList unsigned))
    || (isPointed unsigned && !(isSigned && unsigned.head? = some '.'))
    || isPointedSixties unsigned

/-! ### Forms of days and moments -/

/-- A number of `least` to `most` digits that a text starts with, and the rest. -/
def shortNumber? (least most : Nat) (cs : List Char) : Option (Nat × List Char) :=
  let digits := (cs.take most).takeWhile Char.isDigit
  if digits.length < least then none
  else some (numberOfDigits 10 digits, cs.drop digits.length)

/-- What follows one of the characters of a class. -/
def after? (p : Char → Bool) : List Char → Option (List Char)
  | c :: rest => if p c then some rest else none
  | [] => none

/-- The numbers of a day. -/
structure DayForm where
  year : Nat
  month : Nat
  date : Nat

/-- The numbers of a time of a day. The fraction of a second is given by its digits; a distance from
universal time is given in minutes. -/
structure ClockForm where
  hour : Nat
  minute : Nat
  second : Nat
  fraction : List Char
  zone : Option Int

/-- A day in front of a text, and the rest. -/
def dayAhead? (cs : List Char) : Option (DayForm × List Char) := do
  let (year, cs) ← shortNumber? 4 4 cs
  let cs ← after? (· == '-') cs
  let (month, cs) ← shortNumber? 1 2 cs
  let cs ← after? (· == '-') cs
  let (date, cs) ← shortNumber? 1 2 cs
  some (⟨year, month, date⟩, cs)

/-- The distance from universal time that a whole text shows, in minutes; nothing for an empty
text. -/
def zoneOf? (cs : List Char) : Option (Option Int) :=
  match cs.dropWhile isGap with
  | [] => if cs.isEmpty then some none else none
  | ['Z'] => some (some 0)
  | sign :: rest =>
    if sign = '-' || sign = '+' then do
      let (hours, rest) ← shortNumber? 1 2 rest
      let minutes ← match rest with
        | [] => some 0
        | ':' :: rest => do
          let (minutes, rest) ← shortNumber? 2 2 rest
          if rest.isEmpty then some minutes else none
        | _ => none
      let total : Int := hours * 60 + minutes
      some (some (if sign = '-' then -total else total))
    else none

/-- The time of a day that a whole text shows. -/
def clockOf? (cs : List Char) : Option ClockForm := do
  let (hour, cs) ← shortNumber? 1 2 cs
  let cs ← after? (· == ':') cs
  let (minute, cs) ← shortNumber? 2 2 cs
  let cs ← after? (· == ':') cs
  let (second, cs) ← shortNumber? 2 2 cs
  let (fraction, cs) := match cs with
    | '.' :: rest => (rest.takeWhile Char.isDigit, rest.dropWhile Char.isDigit)
    | _ => ([], cs)
  some ⟨hour, minute, second, fraction, ← zoneOf? cs⟩

/-- What follows the mark between a day and a time: the letter `T` or a gap. -/
def afterDay? : List Char → Option (List Char)
  | [] => none
  | c :: rest =>
    if c = 'T' || c = 't' then some rest
    else if isGap c then some (rest.dropWhile isGap)
    else none

/-- A line feed at the end of a text does not count. -/
def withoutLineFeed (cs : List Char) : List Char :=
  if cs.getLast? = some '\n' then cs.dropLast else cs

/-- The day, perhaps with a time, that a text shows. -/
def momentForm? (cs : List Char) : Option (DayForm × Option ClockForm) := do
  let (day, rest) ← dayAhead? cs
  if rest.isEmpty then some (day, none)
  else some (day, some (← clockOf? (← afterDay? rest)))

/-- Whether a text has the form of a day or a moment. A day alone has two digits for the month and
two for the date. -/
def isMoment (cs : List Char) : Bool :=
  match momentForm? cs with
  | some (_, none) => cs.length = 10
  | some (_, some _) => true
  | none => false

/-! ### Plain scalars -/

namespace Tag

/-- The words for null; the empty scalar is one of them. -/
def nullWords : List String := ["", "~", "null", "Null", "NULL"]

/-- The words for truth values. -/
def truthWords : List String :=
  ["yes", "Yes", "YES", "no", "No", "NO", "true", "True", "TRUE", "false", "False", "FALSE",
    "on", "On", "ON", "off", "Off", "OFF"]

/-- The tag of a plain scalar by its form. -/
def ofForm (text : String) : Tag :=
  let cs := if text = "\n" then text.toList else withoutLineFeed text.toList
  let form := String.ofList cs
  if truthWords.contains form then bool
  else if isFloat cs then float
  else if isInteger cs then int
  else if form = "<<" then merge
  else if nullWords.contains form then null
  else if isMoment cs then timestamp
  else if form = "=" then value
  else if form = "!" || form = "&" || form = "*" then other
  else str

end Tag

end RouteAtlas.Yaml
