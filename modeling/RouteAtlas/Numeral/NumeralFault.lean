/-
Why a text shows no number.

* `NumeralFault`: the causes.
* `NumeralFault.message`: the text of a cause, which shows the text that was read.
-/
import RouteAtlas.Text.Quoted

namespace RouteAtlas

/-- A cause for which a text shows no number. -/
inductive NumeralFault
  /-- The text is no whole number in a base. -/
  | notWhole (base : Nat) (text : List Char)
  /-- The text is no number. -/
  | notNumber (text : List Char)
  /-- The text has more decimal digits than a whole number may have. -/
  | tooLong (digits : Nat)
  deriving DecidableEq, Repr

namespace NumeralFault

/-- The largest number of decimal digits of a whole number. -/
def digitLimit : Nat := 4300

/-- The number of characters of a text that are shown where whole numbers are read. -/
def shownLength : Nat := 200

/-- The text of a cause. -/
def message : NumeralFault → String
  | notWhole base text =>
    s!"invalid literal for int() with base {base}: "
      ++ String.ofList ((Text.quoted (String.ofList text)).toList.take shownLength)
  | notNumber text => "could not convert string to float: " ++ Text.quoted (String.ofList text)
  | tooLong digits =>
    s!"Exceeds the limit ({digitLimit} digits) for integer string conversion: value has {digits} "
      ++ "digits; use sys.set_int_max_str_digits() to increase the limit"

end NumeralFault

end RouteAtlas
