/-
Bytes in base 64.

* `Base64.value?`: the value of a character of the alphabet.
* `Base64.decode?`: the bytes of a text. Characters outside the alphabet are skipped; the text ends
  at the pad that fills a group of four characters, and no group may be left open.
-/
namespace RouteAtlas.Text.Base64

/-- The characters of the alphabet, in the order of their values. -/
def alphabet : List Char :=
  "ABCDEFGHIJKLMNOPQRSTUVWXYZabcdefghijklmnopqrstuvwxyz0123456789+/".toList

/-- The value of a character of the alphabet. -/
def value? (c : Char) : Option Nat :=
  alphabet.findIdx? (· == c)

/-- The byte that a character with value `v` completes, behind `filled` characters of its group, of
which the last one has value `last`. The first character of a group completes none. -/
def completed (filled last v : Nat) : List UInt8 :=
  match filled with
  | 0 => []
  | 1 => [(last * 4 + v / 16).toUInt8]
  | 2 => [(last % 16 * 16 + v / 4).toUInt8]
  | _ => [(last % 4 * 64 + v).toUInt8]

/-- The bytes of a text behind `filled` characters of a group, of which the last one has value
`last`, and behind `pads` pads. -/
def decodeFrom (filled last pads : Nat) : List Char → Option (List UInt8)
  | [] => if filled = 0 then some [] else none
  | c :: rest =>
    if c = '=' then
      if filled < 2 then decodeFrom filled last pads rest
      else if 4 ≤ filled + pads + 1 then some []
      else decodeFrom filled last (pads + 1) rest
    else
      match value? c with
      | some v => (decodeFrom ((filled + 1) % 4) v 0 rest).map (completed filled last v ++ ·)
      | none => decodeFrom filled last pads rest

/-- The bytes of a text. -/
def decode? (cs : List Char) : Option (List UInt8) :=
  decodeFrom 0 0 0 cs

end RouteAtlas.Text.Base64
