/-!
# Binary64: IEEE 754 doubles, computed exactly

A double is held as its 64-bit pattern, so that equality is decidable and the kernel can
evaluate every operation. Every finite double is an integer multiple of the least
subnormal `2^-1074`: its magnitude is a natural number of such units. The exact sum,
difference, product or quotient of two doubles is then a ratio of natural numbers in the
same unit, and `ofRatio` rounds such a ratio to the nearest double, a tie going to the
even significand, overflowing to infinity. Each operation below is `ofRatio` applied to
the exact result, which is what IEEE 754 prescribes in its default rounding mode; the
special cases (NaN, infinities, signed zeros) follow the standard as well.

Main statements:

    (add x y) = (add y x)                                       (add_comm)
-/

namespace Templating

/-- An IEEE 754 binary64 number (a double), held as its bit pattern. -/
structure Binary64 where
  bits : UInt64
deriving DecidableEq, Inhabited

namespace Binary64

/-! ## Fields and shape -/

/-- The number of units of `2^-1074` in one: the scale of magnitudes. -/
def unitScale : Nat := Nat.pow 2 1074

/-- The sign bit. -/
def signBit (x : Binary64) : Bool := decide (Nat.pow 2 63 ≤ x.bits.toNat)

/-- The biased exponent field, 0 to 2047. -/
def exponentField (x : Binary64) : Nat := x.bits.toNat / Nat.pow 2 52 % Nat.pow 2 11

/-- The fraction field, below `2^52`. -/
def fractionField (x : Binary64) : Nat := x.bits.toNat % Nat.pow 2 52

/-- The double with the given sign, biased exponent and fraction fields. -/
def ofFields (neg : Bool) (e f : Nat) : Binary64 :=
  ⟨UInt64.ofNat ((if neg then Nat.pow 2 63 else 0) + e * Nat.pow 2 52 + f)⟩

/-- What a double stands for: not a number, an infinity, or a finite value
`±mag · 2^-1074`. Zero is finite with magnitude 0, and keeps its sign. -/
inductive Shape where
  | nan
  | infinite (neg : Bool)
  | finite (neg : Bool) (mag : Nat)
deriving DecidableEq

/-- The shape of a double, read off its fields. -/
def shape (x : Binary64) : Shape :=
  let e := x.exponentField
  let f := x.fractionField
  if e = 2047 then (if f = 0 then .infinite x.signBit else .nan)
  else if e = 0 then .finite x.signBit f
  else .finite x.signBit ((Nat.pow 2 52 + f) * Nat.pow 2 (e - 1))

/-- The quiet NaN with no payload. -/
def nan : Binary64 := ⟨0x7FF8000000000000⟩

/-- The infinity of the given sign. -/
def infinity (neg : Bool) : Binary64 := ofFields neg 2047 0

/-- The zero of the given sign. -/
def zero (neg : Bool) : Binary64 := ofFields neg 0 0

/-- Whether a double is a NaN. -/
def isNaN (x : Binary64) : Bool := x.shape matches .nan

/-- Whether a double is an infinity. -/
def isInfinite (x : Binary64) : Bool := x.shape matches .infinite _

/-- Whether a double is finite. -/
def isFinite (x : Binary64) : Bool := x.shape matches .finite _ _

/-- Whether a double is a zero of either sign. -/
def isZero (x : Binary64) : Bool := x.shape matches .finite _ 0

/-! ## Rounding -/

/-- The double nearest to `num / den` units of `2^-1074`, with the given sign. A tie goes
to the even significand; a magnitude beyond the largest finite double gives infinity.
The quantum `2^k` is the spacing of doubles near the value: 1 below `2^53` units, and
`2^(log2 ⌊num/den⌋ - 52)` above, so that the significand `num / (den·2^k)` lies in
`[2^52, 2^53)`. A zero denominator gives NaN. -/
def ofRatio (neg : Bool) (num den : Nat) : Binary64 :=
  if den = 0 then nan else
  let whole := num / den
  let k := if whole < Nat.pow 2 53 then 0 else Nat.log2 whole - 52
  let quantum := den * Nat.pow 2 k
  let m₀ := num / quantum
  let r := num % quantum
  let m := if quantum < 2 * r || (2 * r = quantum && m₀ % 2 = 1) then m₀ + 1 else m₀
  let (m, k) := if m = Nat.pow 2 53 then (Nat.pow 2 52, k + 1) else (m, k)
  if 2045 < k then infinity neg
  else if m < Nat.pow 2 52 then ofFields neg 0 m
  else ofFields neg (k + 1) (m - Nat.pow 2 52)

/-- The double nearest to a signed integer number of units. -/
def ofUnits (n : Int) : Binary64 := ofRatio (decide (n < 0)) n.natAbs 1

/-! ## Sign -/

/-- The double with the sign bit flipped (negation, also of NaN and zero). -/
def neg (x : Binary64) : Binary64 := ⟨x.bits ^^^ 0x8000000000000000⟩

/-- The double with the sign bit cleared. -/
def abs (x : Binary64) : Binary64 := ⟨x.bits &&& 0x7FFFFFFFFFFFFFFF⟩

/-- A magnitude with a sign, as an integer. -/
def signed (neg : Bool) (mag : Nat) : Int := if neg then -(mag : Int) else mag

/-! ## Arithmetic -/

/-- The rounded sum. An exact zero sum is `+0`, unless both operands are `-0`. -/
def add (x y : Binary64) : Binary64 :=
  match x.shape, y.shape with
  | .nan, _ => nan
  | _, .nan => nan
  | .infinite a, .infinite b => if a = b then infinity a else nan
  | .infinite a, _ => infinity a
  | _, .infinite b => infinity b
  | .finite a m, .finite b n =>
    let s := signed a m + signed b n
    if s = 0 then zero (a && b) else ofUnits s

/-- The rounded difference. -/
def sub (x y : Binary64) : Binary64 := add x y.neg

/-- The rounded product; its sign is the exclusive or of the operands' signs. -/
def mul (x y : Binary64) : Binary64 :=
  match x.shape, y.shape with
  | .nan, _ => nan
  | _, .nan => nan
  | .infinite a, .infinite b => infinity (a != b)
  | .infinite a, .finite b n => if n = 0 then nan else infinity (a != b)
  | .finite a m, .infinite b => if m = 0 then nan else infinity (a != b)
  | .finite a m, .finite b n => ofRatio (a != b) (m * n) unitScale

/-- The rounded quotient. Division of a non-zero finite value by zero is infinite,
`0/0` and `∞/∞` are NaN. -/
def div (x y : Binary64) : Binary64 :=
  match x.shape, y.shape with
  | .nan, _ => nan
  | _, .nan => nan
  | .infinite _, .infinite _ => nan
  | .infinite a, .finite b _ => infinity (a != b)
  | .finite a _, .infinite b => zero (a != b)
  | .finite a m, .finite b n =>
    if n = 0 then (if m = 0 then nan else infinity (a != b))
    else ofRatio (a != b) (m * unitScale) n

/-- The remainder of `x` after removing whole multiples of `y`, with the sign of `x`
(the C `fmod`). It is exact: the remainder is always a double. It is NaN when `x` is
infinite, `y` is zero, or either is NaN, and `x` itself when `y` is infinite. -/
def fmod (x y : Binary64) : Binary64 :=
  match x.shape, y.shape with
  | .nan, _ => nan
  | _, .nan => nan
  | .infinite _, _ => nan
  | .finite _ _, .infinite _ => x
  | .finite a m, .finite _ n => if n = 0 then nan else ofRatio a (m % n) 1

/-! ## Order -/

/-- The order of two doubles; none when either is NaN. The zeros are equal. -/
def compare? (x y : Binary64) : Option Ordering :=
  match x.shape, y.shape with
  | .nan, _ => none
  | _, .nan => none
  | .infinite a, .infinite b => some (if a = b then .eq else if a then .lt else .gt)
  | .infinite a, _ => some (if a then .lt else .gt)
  | _, .infinite b => some (if b then .gt else .lt)
  | .finite a m, .finite b n => some (compare (signed a m) (signed b n))

/-- The order of a double against an integer, exactly; none for NaN. -/
def compareInt? (x : Binary64) (n : Int) : Option Ordering :=
  match x.shape with
  | .nan => none
  | .infinite a => some (if a then .lt else .gt)
  | .finite a m => some (compare (signed a m) (n * unitScale))

/-! ## Integers -/

/-- The double nearest to an integer (infinite beyond the finite range). -/
def ofInt (n : Int) : Binary64 := ofUnits (n * unitScale)

/-- The double nearest to the quotient of two integers; NaN when `b = 0`. -/
def ofIntRatio (a b : Int) : Binary64 :=
  ofRatio (decide (a < 0) != decide (b < 0)) (a.natAbs * unitScale) b.natAbs

/-- The integer part of a finite double, rounded toward zero; none when not finite. -/
def trunc? (x : Binary64) : Option Int :=
  match x.shape with
  | .finite a m => some (signed a (m / unitScale))
  | _ => none

/-- The greatest integer not above a finite double; none when not finite. -/
def floor? (x : Binary64) : Option Int :=
  match x.shape with
  | .finite false m => some (m / unitScale)
  | .finite true m => some (-(((m + unitScale - 1) / unitScale : Nat) : Int))
  | _ => none

/-! ## Native doubles -/

/-- The Lean `Float` with the same bits. -/
def toFloat (x : Binary64) : Float := Float.ofBits x.bits

/-- The double with the bits of a Lean `Float`. -/
def ofFloat (f : Float) : Binary64 := ⟨f.toBits⟩

/-! ## Lemmas -/

theorem add_comm (x y : Binary64) : add x y = add y x := by
  unfold add
  cases x.shape <;> cases y.shape <;> simp only
  · rename_i a b; by_cases h : a = b <;> simp [h, eq_comm]
  · rename_i a m b n
    rw [Int.add_comm (signed a m), Bool.and_comm]

end Binary64

end Templating
