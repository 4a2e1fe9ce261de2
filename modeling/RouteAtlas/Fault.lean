/-
Why a text gives no value.

* `Fault`: the causes, for both formats.
* `Fault.message?`: the text of the causes that have one.
-/
import RouteAtlas.Calendar
import RouteAtlas.Numeral.NumeralFault

namespace RouteAtlas

/-- A cause for which a text gives no value. -/
inductive Fault
  /-- The text does not follow the grammar, or a node cannot be what its tag says. -/
  | malformed
  /-- A scalar that has to be a number shows none. -/
  | numeral (cause : NumeralFault)
  /-- A scalar has the form of a day or of a moment and names none. -/
  | calendar (cause : CalendarFault)
  /-- An escape names a code point beyond the last one. -/
  | noCharacter
  /-- A scalar that has to be a number has no characters. -/
  | emptyNumeral
  /-- A scalar that has to be a truth value is none of the words for it. -/
  | unknownTruthWord
  /-- A scalar that has to be a moment has not the form of one. -/
  | notAMoment
  /-- A collection stands where the text of a moment has to be. -/
  | momentOfCollection
  /-- A number is too large to be computed with. -/
  | outOfRange
  /-- Parts are nested too deeply. -/
  | tooDeep
  deriving DecidableEq, Repr

namespace Fault

/-- The text of a cause, if it has one. -/
def message? : Fault → Option String
  | numeral cause => some cause.message
  | calendar cause => some cause.message
  | noCharacter => some "chr() arg not in range(0x110000)"
  | _ => none

end Fault

end RouteAtlas
