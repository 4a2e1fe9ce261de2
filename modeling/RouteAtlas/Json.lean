/-
Values in JSON.

* `Json.read`: the value that a text spells. White space may stand around tokens; the words `NaN`,
  `Infinity` and `-Infinity` are numbers; a later member of an object replaces an earlier one of
  its name, in its place; a byte order mark is no white space. Of several faults the first one in
  the text counts.
* `Json.numberOf`: a numeral with neither fraction nor exponent is an integer, any other the
  nearest floating-point number.
* `Json.depthLimit`: how deeply lists and objects may be nested.
* `Json.string?`: the text of a string, in which two escaped surrogate halves are one character.
-/
import RouteAtlas.Fault
import RouteAtlas.Value
import RouteAtlas.Text.Pieces
import RouteAtlas.Text.Surrogates
import RouteAtlas.Numeral.Whole

namespace RouteAtlas.Json

open RouteAtlas.Text (cutPrefix? ofCodePoints)

/-- White space between tokens. -/
def isSpace (c : Char) : Bool :=
  c == ' ' || c == '\t' || c == '\n' || c == '\r'

/-- A digit in base sixteen. -/
def isHexDigit (c : Char) : Bool :=
  c.isDigit || ('a' ≤ c && c ≤ 'f') || ('A' ≤ c && c ≤ 'F')

/-- The escapes of one letter, with the code points that they stand for. -/
def escapes : List (Char × Nat) :=
  [('\x22', 0x22), ('\\', 0x5C), ('/', 0x2F), ('b', 0x8), ('f', 0xC), ('n', 0xA), ('r', 0xD),
    ('t', 0x9)]

/-- The code points of a string up to its closing mark, and what follows the mark. -/
def codePoints? : List Char → Option (List Nat × List Char)
  | [] => none
  | c :: rest =>
    if c = '\x22' then some ([], rest)
    else if c.toNat < 0x20 then none
    else if c = '\\' then
      match rest with
      | [] => none
      | e :: more =>
        if e = 'u' then
          match more with
          | h₁ :: h₂ :: h₃ :: h₄ :: after =>
            if [h₁, h₂, h₃, h₄].all isHexDigit then
              (codePoints? after).map fun r => (numberOfDigits 16 [h₁, h₂, h₃, h₄] :: r.1, r.2)
            else none
          | _ => none
        else
          match escapes.lookup e with
          | some n => (codePoints? more).map fun r => (n :: r.1, r.2)
          | none => none
    else (codePoints? rest).map fun r => (c.toNat :: r.1, r.2)

/-- The text of a string after its opening mark, and what follows it. -/
def string? (cs : List Char) : Option (String × List Char) :=
  (codePoints? cs).map fun r => (String.ofList (ofCodePoints r.1), r.2)

/-- The digits that a text starts with, of which zero stands alone. -/
def wholeDigits : List Char → List Char × List Char
  | '0' :: rest => (['0'], rest)
  | cs => (cs.takeWhile Char.isDigit, cs.dropWhile Char.isDigit)

/-- A fraction, if a point and at least one digit follow: its digits and the rest. -/
def fraction? : List Char → Option (List Char × List Char)
  | '.' :: rest =>
    if (rest.takeWhile Char.isDigit).isEmpty then none
    else some (rest.takeWhile Char.isDigit, rest.dropWhile Char.isDigit)
  | _ => none

/-- An exponent, if the letter `e`, perhaps a sign, and at least one digit follow: its value and
the rest. -/
def exponent? : List Char → Option (Int × List Char)
  | c :: rest =>
    let (negative, unsigned) := cutSign rest
    let digits := unsigned.takeWhile Char.isDigit
    if (c = 'e' || c = 'E') && !digits.isEmpty then
      let n : Int := numberOfDigits 10 digits
      some (if negative then -n else n, unsigned.dropWhile Char.isDigit)
    else none
  | [] => none

/-- The number of a numeral. Without fraction and exponent it is an integer. -/
def numberOf (negative : Bool) (whole : List Char) (fraction : Option (List Char))
    (exponent : Option Int) : Except Fault Value :=
  if fraction.isNone && exponent.isNone then
    match Whole.ofDigits whole with
    | .ok n => .ok (.int (Whole.signed negative n))
    | .error cause => .error (.numeral cause)
  else
    let digits := fraction.getD []
    .ok (.float (Decimal.toBinary64
      ⟨negative, numberOfDigits 10 (whole ++ digits), exponent.getD 0 - digits.length⟩))

/-- The number that a text starts with, and the rest. -/
def number (cs : List Char) : Except Fault (Value × List Char) := do
  let (negative, unsigned) := match cs with
    | '-' :: rest => (true, rest)
    | _ => (false, cs)
  let (whole, afterWhole) := wholeDigits unsigned
  if whole.isEmpty then .error .malformed
  else
    let (fraction, afterFraction) := match fraction? afterWhole with
      | some (digits, rest) => (some digits, rest)
      | none => (none, afterWhole)
    let (exponent, rest) := match exponent? afterFraction with
      | some (n, rest) => (some n, rest)
      | none => (none, afterFraction)
    .ok (← numberOf negative whole fraction exponent, rest)

/-- The values that are words. -/
def words : List (String × Value) :=
  [("null", .null), ("true", .bool true), ("false", .bool false),
    ("NaN", .float (Binary64.notANumber false)), ("Infinity", .float (Binary64.infinity false)),
    ("-Infinity", .float (Binary64.infinity true))]

/-- The word or number that a text starts with, and the rest. -/
def scalar (cs : List Char) : Except Fault (Value × List Char) :=
  match words.findSome? fun word => (cutPrefix? word.1.toList cs).map (word.2, ·) with
  | some found => .ok found
  | none => number cs

/-- How deeply lists and objects may be nested. -/
def depthLimit : Nat := 988

mutual

/-- The value that a text starts with, and the rest. The first argument bounds the number of steps,
the second is the number of levels that may still be opened. -/
def value : Nat → Nat → List Char → Except Fault (Value × List Char)
  | 0, _, _ => .error .malformed
  | fuel + 1, depth, cs =>
    match cs, depth with
    | '\x22' :: rest, _ =>
      match string? rest with
      | some (text, rest) => .ok (.text text, rest)
      | none => .error .malformed
    | '[' :: _, 0 | '\x7b' :: _, 0 => .error .tooDeep
    | '[' :: rest, depth + 1 =>
      match rest.dropWhile isSpace with
      | ']' :: after => .ok (.list [], after)
      | inside => do
        let (found, rest) ← items fuel depth inside
        .ok (.list found, rest)
    | '\x7b' :: rest, depth + 1 =>
      match rest.dropWhile isSpace with
      | '\x7d' :: after => .ok (.map [], after)
      | inside => do
        let (found, rest) ← members fuel depth [] inside
        .ok (.map found, rest)
    | _, _ => scalar cs

/-- The items of a list up to its closing bracket, and the rest. -/
def items : Nat → Nat → List Char → Except Fault (List Value × List Char)
  | 0, _, _ => .error .malformed
  | fuel + 1, depth, cs => do
    let (item, rest) ← value fuel depth cs
    match rest.dropWhile isSpace with
    | ']' :: after => .ok ([item], after)
    | ',' :: more =>
      let (others, rest) ← items fuel depth (more.dropWhile isSpace)
      .ok (item :: others, rest)
    | _ => .error .malformed

/-- The members of an object up to its closing brace, after the members `entries`, and the
rest. -/
def members : Nat → Nat → List (Value × Value) → List Char →
    Except Fault (List (Value × Value) × List Char)
  | 0, _, _, _ => .error .malformed
  | fuel + 1, depth, entries, cs =>
    match cs with
    | '\x22' :: more =>
      match string? more with
      | none => .error .malformed
      | some (name, rest) =>
        match rest.dropWhile isSpace with
        | ':' :: after => do
          let (member, rest) ← value fuel depth (after.dropWhile isSpace)
          let entries := Value.insert (.text name) member entries
          match rest.dropWhile isSpace with
          | '\x7d' :: after => .ok (entries, after)
          | ',' :: more => members fuel depth entries (more.dropWhile isSpace)
          | _ => .error .malformed
        | _ => .error .malformed
    | _ => .error .malformed

end

/-- The value that a text spells. Each character adds at most two steps, so twice the length bounds
them. -/
def read (s : String) : Except Fault Value := do
  let cs := s.toList
  let (found, rest) ← value (2 * cs.length + 2) depthLimit (cs.dropWhile isSpace)
  if (rest.dropWhile isSpace).isEmpty then .ok found else .error .malformed

end RouteAtlas.Json
