import Templating.Number.Binary64
/-!
# Shortest decimal digits of a double

A positive finite double `x` is the nearest double to every real number in its rounding
interval: the reals within half a spacing of `x` on either side, the ends included when
the significand of `x` is even (a tie reads back to the even neighbour). The spacing
below `x` is half the spacing above when `x` is a power of two with a normal neighbour.

The shortest decimal for `x` is found by trying 1, 2, … 17 significant digits: with `p`
digits the candidates are the multiples of `10^(e - p + 1)`, where `10^e ≤ x < 10^(e+1)`,
that lie in the interval. The first `p` with a candidate wins; of several candidates the
nearest to `x` is taken, and of two equally near the one with the even last digit.
Seventeen digits always suffice for a double. Everything is exact arithmetic on natural
numbers, with magnitudes in units of `2^-1074` (see `Binary64`).
-/

namespace Templating

/-- A decimal number `digits · 10^exp`. -/
structure Decimal where
  digits : Nat
  exp : Int
deriving DecidableEq, Inhabited

namespace Decimal

/-! ## Algorithm -/

/-- The same decimal without trailing zero digits. -/
def trimZeros (d : Decimal) : Decimal :=
  if h : 0 < d.digits ∧ d.digits % 10 = 0 then
    have : d.digits / 10 < d.digits := Nat.div_lt_self h.1 (by decide)
    trimZeros ⟨d.digits / 10, d.exp + 1⟩
  else d
termination_by d.digits

/-- `⌈a / b⌉` for a positive `b`. -/
def ceilDiv (a b : Nat) : Nat := (a + b - 1) / b

/-- Whether `10^e ≤ mag · 2^-1074`. -/
def powTenAtMost (mag : Nat) (e : Int) : Bool :=
  if 0 ≤ e then Nat.pow 10 e.toNat * Binary64.unitScale ≤ mag
  else Binary64.unitScale ≤ mag * Nat.pow 10 (-e).toNat

/-- The decimal exponent `e` with `10^e ≤ mag · 2^-1074 < 10^(e+1)`, for a positive `mag`.
The estimate from the binary logarithm is off by at most one either way. -/
def decimalExponent (mag : Nat) : Int :=
  let est : Int := ((Nat.log2 mag : Int) - 1074) * 30103 / 100000
  if !powTenAtMost mag est then est - 1
  else if powTenAtMost mag (est + 1) then est + 1
  else est

/-- The candidate with `p` significant digits for the rounding interval `[lo, hi]`
(halves of units, `closed` telling whether the ends count) around `mid`, if any. -/
def candidate (lo mid hi : Nat) (closed : Bool) (e10 : Int) (p : Nat) : Option Decimal :=
  let E := e10 - p + 1
  let up := Nat.pow 10 (-E).toNat
  let down := 2 * Binary64.unitScale * Nat.pow 10 E.toNat
  let cLo := if closed then ceilDiv (lo * up) down else lo * up / down + 1
  let cHi := if closed then hi * up / down else ceilDiv (hi * up) down - 1
  if cLo ≤ cHi then
    let q := mid * up / down
    let r := mid * up % down
    let near := if down < 2 * r || (2 * r = down && q % 2 = 1) then q + 1 else q
    some (trimZeros ⟨min (max near cLo) cHi, E⟩)
  else none

end Decimal

namespace Binary64

/-- The shortest decimal that reads back as the magnitude of a finite non-zero double. -/
def shortest (x : Binary64) : Decimal :=
  let e := x.exponentField
  let f := x.fractionField
  let sig := if e = 0 then f else Nat.pow 2 52 + f
  let k := if e = 0 then 0 else e - 1
  let mag := sig * Nat.pow 2 k
  let below := if f = 0 ∧ 1 < e then Nat.pow 2 (k - 1) else Nat.pow 2 k
  let lo := 2 * mag - below
  let hi := 2 * mag + Nat.pow 2 k
  let e10 := Decimal.decimalExponent mag
  ((List.range 17).findSome?
    (fun i => Decimal.candidate lo (2 * mag) hi (sig % 2 = 0) e10 (i + 1))).getD ⟨mag, -1074⟩

end Binary64

end Templating
