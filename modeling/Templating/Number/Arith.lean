import Templating.Number.Binary64
import Templating.Text.Basic
/-!
# Arithmetic on integers and doubles

A number is an integer of any size or a double. Two integers combine exactly; when a
double takes part, the integer is first converted to the nearest double, which fails
when it lies beyond the finite range. The failures are causes (`ArithError`), each with
its message.

Powers of doubles follow two tables of special cases (infinities, NaN, zero, one)
and leave the finite rest to the platform's `pow`:

* `Binary64.power` is the power operator of doubles: it overflows with an error and has
  no domain errors on the inputs it is used on;
* `Binary64.mathPow` is the checked power function: a NaN result from finite inputs is a
  domain error, and an infinite one a domain error at zero and a range error elsewhere.
-/

namespace Templating

/-- A number: an integer of any size, or a double. -/
inductive Num where
  | int (n : Int)
  | float (x : Binary64)
deriving DecidableEq

/-- Why an arithmetic step fails. -/
inductive ArithError where
  /-- An integer lies beyond the range of doubles. -/
  | intTooLarge
  /-- A quotient of integers lies beyond the range of doubles. -/
  | quotientTooLarge
  /-- An integer is divided by zero. -/
  | divisionByZero
  /-- A double is divided by zero. -/
  | floatDivisionByZero
  /-- A checked power function is outside its domain. -/
  | domain
  /-- A checked power function overflows. -/
  | range
  /-- An infinite double is made an integer. -/
  | infiniteToInt
  /-- A NaN is made an integer. -/
  | nanToInt
  /-- The power operator of doubles overflows. -/
  | outOfRange
deriving DecidableEq

/-- The message of an arithmetic failure. -/
def ArithError.message : ArithError → Text
  | .intTooLarge => Text.ofString "int too large to convert to float"
  | .quotientTooLarge => Text.ofString "integer division result too large for a float"
  | .divisionByZero => Text.ofString "division by zero"
  | .floatDivisionByZero => Text.ofString "float division by zero"
  | .domain => Text.ofString "math domain error"
  | .range => Text.ofString "math range error"
  | .infiniteToInt => Text.ofString "cannot convert float infinity to integer"
  | .nanToInt => Text.ofString "cannot convert float NaN to integer"
  | .outOfRange => Text.ofString "(34, 'Numerical result out of range')"

namespace Binary64

/-- The double one. -/
def one : Binary64 := ofInt 1

/-- The double nearest to an integer; an error beyond the finite range. -/
def ofInt? (n : Int) : Except ArithError Binary64 :=
  let x := ofInt n
  if x.isInfinite then .error .intTooLarge else .ok x

/-- Whether a double is an integer. -/
def isInteger (x : Binary64) : Bool :=
  match x.shape with
  | .finite _ m => m % unitScale = 0
  | _ => false

/-- Whether a double is an odd integer. -/
def isOddInteger (x : Binary64) : Bool :=
  match x.shape with
  | .finite _ m => m % unitScale = 0 && (m / unitScale) % 2 = 1
  | _ => false

/-- Whether two doubles are equal as numbers (the zeros are, NaN is not). -/
def eqNum (x y : Binary64) : Bool := x.compare? y = some .eq

/-- The double with the magnitude of `x` and the sign of `y`. -/
def copySign (x y : Binary64) : Binary64 := if x.signBit = y.signBit then x else x.neg

/-- Whether a double is positive (above zero). -/
def isPositive (x : Binary64) : Bool := x.compare? (Binary64.zero false) = some .gt

/-- The platform's power of two finite doubles. -/
def nativePow (x y : Binary64) : Binary64 := ofFloat (Float.pow x.toFloat y.toFloat)

/-- The power operator of doubles: exact special cases for a zero exponent, NaN,
infinities, a zero base and a base of magnitude one; the platform's power otherwise,
with an overflow an error. A zero base with a negative exponent has no power, and is
reported as a domain error. -/
def power (x y : Binary64) : Except ArithError Binary64 :=
  if y.isZero then .ok one
  else if x.isNaN then .ok x
  else if y.isNaN then .ok (if x.eqNum one then one else y)
  else if y.isInfinite then
    let ax := x.abs
    if ax.eqNum one then .ok one
    else if y.isPositive == (ax.compare? one = some .gt) then .ok y.abs
    else .ok (Binary64.zero false)
  else if x.isInfinite then
    if y.isPositive then .ok (if y.isOddInteger then x else x.abs)
    else .ok (if y.isOddInteger then (Binary64.zero false).copySign x else Binary64.zero false)
  else if x.isZero then
    if y.isPositive then .ok (if y.isOddInteger then x else Binary64.zero false)
    else .error .domain
  else
    let negate := x.signBit && y.isOddInteger
    if !x.signBit || y.isInteger then
      let ax := x.abs
      if ax.eqNum one then .ok (if negate then one.neg else one)
      else
        let r := nativePow ax y
        if r.isInfinite then .error .outOfRange
        else .ok (if negate then r.neg else r)
    else .error .domain

/-- The checked power function: exact special cases when either argument is not finite;
the platform's power otherwise, where a NaN result is a domain error and an infinite one
is a domain error for a zero base and a range error for any other. -/
def mathPow (x y : Binary64) : Except ArithError Binary64 :=
  if !x.isFinite || !y.isFinite then
    if x.isNaN then .ok (if y.isZero then one else x)
    else if y.isNaN then .ok (if x.eqNum one then one else y)
    else if x.isInfinite then
      if y.isPositive then .ok (if y.isOddInteger then x else x.abs)
      else if y.isZero then .ok one
      else .ok (if y.isOddInteger then (Binary64.zero false).copySign x else Binary64.zero false)
    else
      let ax := x.abs
      if ax.eqNum one then .ok one
      else if y.isPositive && ax.compare? one = some .gt then .ok y
      else if !y.isPositive && ax.compare? one = some .lt then .ok y.neg
      else .ok (Binary64.zero false)
  else
    let r := nativePow x y
    if r.isNaN then .error .domain
    else if r.isInfinite then .error (if x.isZero then .domain else .range)
    else .ok r

/-- The remainder of the checked `fmod` function: NaN from operands that are not NaN is
a domain error. -/
def remainder (x y : Binary64) : Except ArithError Binary64 :=
  let r := fmod x y
  if r.isNaN && !x.isNaN && !y.isNaN then .error .domain else .ok r

/-- The greatest integer not above a double. -/
def floorInt (x : Binary64) : Except ArithError Int :=
  match x.floor? with
  | some n => .ok n
  | none => .error (if x.isNaN then .nanToInt else .infiniteToInt)

/-- The integer part of a double, toward zero. -/
def truncInt (x : Binary64) : Except ArithError Int :=
  match x.trunc? with
  | some n => .ok n
  | none => .error (if x.isNaN then .nanToInt else .infiniteToInt)

end Binary64

namespace Num

/-- The number as a double. -/
def toDouble : Num → Except ArithError Binary64
  | .int n => Binary64.ofInt? n
  | .float x => .ok x

/-- Combine two numbers: exactly when both are integers, as doubles otherwise. -/
def combine (onInt : Int → Int → Int) (onFloat : Binary64 → Binary64 → Binary64) :
    Num → Num → Except ArithError Num
  | .int a, .int b => .ok (.int (onInt a b))
  | a, b => do
    let x ← a.toDouble
    let y ← b.toDouble
    pure (.float (onFloat x y))

/-- The sum of two numbers. -/
def add : Num → Num → Except ArithError Num := combine (· + ·) Binary64.add

/-- The difference of two numbers. -/
def sub : Num → Num → Except ArithError Num := combine (· - ·) Binary64.sub

/-- The product of two numbers. -/
def mul : Num → Num → Except ArithError Num := combine (· * ·) Binary64.mul

/-- The quotient of two numbers as a double, rounded once even for two integers. -/
def trueDiv : Num → Num → Except ArithError Num
  | .int a, .int b =>
    if b = 0 then .error .divisionByZero
    else
      let q := Binary64.ofIntRatio a b
      if q.isInfinite then .error .quotientTooLarge else .ok (.float q)
  | a, b => do
    let x ← a.toDouble
    let y ← b.toDouble
    if y.isZero then .error .floatDivisionByZero else pure (.float (x.div y))

/-- Whether a number is zero (either zero of the doubles included). -/
def isZero : Num → Bool
  | .int n => n = 0
  | .float x => x.isZero

/-- Whether a number is below zero. -/
def isNegative : Num → Bool
  | .int n => n < 0
  | .float x => x.compare? (Binary64.zero false) = some .lt

/-- The magnitude of a number. -/
def abs : Num → Num
  | .int n => .int n.natAbs
  | .float x => .float x.abs

/-- The negation of a number (for doubles, the sign flips). -/
def neg : Num → Num
  | .int n => .int (-n)
  | .float x => .float x.neg

/-- The order of two numbers, exact across integers and doubles; none when a NaN takes
part. -/
def compare? : Num → Num → Option Ordering
  | .int a, .int b => some (compare a b)
  | .float x, .float y => x.compare? y
  | .float x, .int b => x.compareInt? b
  | .int a, .float y => (y.compareInt? a).map Ordering.swap

end Num

end Templating
