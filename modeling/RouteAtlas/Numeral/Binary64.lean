/-
Binary floating-point numbers of 64 bits, by their words.

* `Binary64`: a number, as a sign, an exponent and a fraction in one word.
* `Binary64.roundHalfEven`: a quotient rounded to the nearest integer, a half to the even one.
* `Binary64.nearestWord`, `Binary64.ofRatio`: the number nearest to a quotient, or infinity beyond
  the largest.
* `Binary64.units`: a finite number counted in the smallest positive number.
* `Binary64.add`, `Binary64.mul`: the exact sum and product, rounded once.
* `Binary64.integer?`: the integer that a number without fraction stands for.
-/
namespace RouteAtlas

/-- A binary floating-point number of 64 bits. -/
structure Binary64 where
  word : UInt64
  deriving DecidableEq, Repr, Inhabited

namespace Binary64

/-! ### Rounding -/

/-- The quotient of two numbers rounded to the nearest integer; a half goes to the even one. -/
def roundHalfEven (num den : Nat) : Nat :=
  let floor := num / den
  if 2 * (num % den) < den then floor
  else if den < 2 * (num % den) then floor + 1
  else floor + floor % 2

/-- The word of positive infinity. -/
def infinityWord : Nat := 0x7FF0000000000000

/-- The largest exponent `e` with `2 ^ e ≤ num / den`, for positive numbers. -/
def floorLog (num den : Nat) : Int :=
  let e : Int := (num.log2 : Int) - den.log2
  if den * Nat.pow 2 e.toNat ≤ num * Nat.pow 2 (-e).toNat then e else e - 1

/-- The word of the number nearest to `num / den`. Its last place is worth `2 ^ k`, where the
smallest `k` is -1074; the significand, carried into the exponent if it overflows, is added to the
exponent field. -/
def nearestWord (num den : Nat) : Nat :=
  if num = 0 then 0
  else
    let k : Int := max (floorLog num den - 52) (-1074)
    let significand := roundHalfEven (num * Nat.pow 2 (-k).toNat) (den * Nat.pow 2 k.toNat)
    min infinityWord ((k + 1074).toNat * Nat.pow 2 52 + significand)

/-! ### Numbers -/

/-- The number with a sign and the word that it has without it. -/
def ofSize (negative : Bool) (size : Nat) : Binary64 :=
  ⟨UInt64.ofNat ((if negative then Nat.pow 2 63 else 0) + size)⟩

/-- The number with the given sign that is nearest to `num / den`. -/
def ofRatio (negative : Bool) (num den : Nat) : Binary64 :=
  ofSize negative (nearestWord num den)

/-- Zero with the given sign. -/
def zero (negative : Bool) : Binary64 :=
  ofSize negative 0

/-- Infinity with the given sign. -/
def infinity (negative : Bool) : Binary64 :=
  ofSize negative infinityWord

/-- The value that stands for no number, with the given sign. -/
def notANumber (negative : Bool) : Binary64 :=
  ofSize negative 0x7FF8000000000000

/-- The result of an operation that has none. -/
def invalid : Binary64 :=
  notANumber true

/-- Whether the sign is negative. -/
def isNegative (x : Binary64) : Bool :=
  Nat.pow 2 63 ≤ x.word.toNat

/-- The word without the sign. -/
def size (x : Binary64) : Nat :=
  x.word.toNat % Nat.pow 2 63

/-- Whether a value stands for no number. -/
def isNaN (x : Binary64) : Bool :=
  infinityWord < x.size

/-- Whether a value is a number other than the infinities. -/
def isFinite (x : Binary64) : Bool :=
  x.size < infinityWord

/-- Whether a value is one of the two zeros. -/
def isZero (x : Binary64) : Bool :=
  x.size = 0

/-- Whether two values are the same number; the two zeros are, and no number is none. -/
def sameNumber (x y : Binary64) : Bool :=
  !x.isNaN && !y.isNaN && (x == y || (x.isZero && y.isZero))

/-! ### Places -/

/-- The exponent field of a word. -/
def exponentField (word : Nat) : Nat :=
  word / Nat.pow 2 52 % Nat.pow 2 11

/-- The size of a finite number in units of its last place. -/
def significand (word : Nat) : Nat :=
  if exponentField word = 0 then word % Nat.pow 2 52 else Nat.pow 2 52 + word % Nat.pow 2 52

/-- The power of two that the last place of a finite number is worth. -/
def lastPlace (word : Nat) : Int :=
  (max (exponentField word) 1 : Nat) - 1075

/-- The number of units in one: the smallest positive number is worth one unit. -/
def unitsInOne : Nat := Nat.pow 2 1074

/-- A finite number counted in units. -/
def units (x : Binary64) : Int :=
  let magnitude : Int := (significand x.size * Nat.pow 2 (lastPlace x.size + 1074).toNat : Nat)
  if x.isNegative then -magnitude else magnitude

/-- The integer that a finite number without fraction stands for. -/
def integer? (x : Binary64) : Option Int :=
  if x.isFinite && x.units % unitsInOne = 0 then some (x.units / unitsInOne) else none

/-! ### Arithmetic -/

/-- The sum of two finite numbers, rounded once. A sum of nothing is negative only if both numbers
are. -/
def addFinite (x y : Binary64) : Binary64 :=
  let sum := x.units + y.units
  if sum = 0 then zero (x.isNegative && y.isNegative)
  else ofRatio (decide (sum < 0)) sum.natAbs unitsInOne

/-- The sum of two values. A value that stands for no number is kept; infinities of both signs
have no sum. -/
def add (x y : Binary64) : Binary64 :=
  if x.isNaN then x
  else if y.isNaN then y
  else if x.isFinite && y.isFinite then addFinite x y
  else if x.isFinite then y
  else if y.isFinite || x == y then x
  else invalid

/-- The product of two values. A value that stands for no number is kept; infinity and zero have no
product. -/
def mul (x y : Binary64) : Binary64 :=
  let negative := x.isNegative != y.isNegative
  if x.isNaN then x
  else if y.isNaN then y
  else if x.isFinite && y.isFinite then
    ofRatio negative (x.units * y.units).natAbs (unitsInOne * unitsInOne)
  else if x.isZero || y.isZero then invalid
  else infinity negative

end Binary64

end RouteAtlas
