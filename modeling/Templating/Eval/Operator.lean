import Templating.Eval.Error
import Templating.Value.Equality
/-!
# Operators

The unary and binary operators of expressions on values.

* `-e` and `+e` multiply a number by -1 or 1; they fail on anything else.
* `+` adds numbers; when either side is a text it joins the interpolation texts of both
  sides; it concatenates two lists; anything else fails.
* `-`, `*`, `/`, `%` and `^` need two numbers. Two integers combine exactly:
  `/` divides the magnitudes and negates the quotient when the signs differ, which is
  division truncated toward zero; `%` leaves the remainder of that quotient (with the sign
  of the dividend); `^` raises to a power, which for a negative exponent is a double.
  With a double on either side the integer is converted and the doubles combine,
  `%` as the checked `fmod` and `^` as the checked power function.
* A zero divisor fails for `/` and `%`, as does zero to a negative integer power; an
  integer power fails when the result would have more than `maxPowerBits` bits, judged
  by the bit length of the base times the exponent.
* `==` and `!=` are strict equality; `<`, `<=`, `>`, `>=` order two numbers or two texts
  and fail on anything else.

Each takes the depth of the host frame it runs in: texts of values, for `+` and for the
messages of failures, are computed one frame deeper (`shownText`, `EvalError.showing`).

Main statements:

    intDivide a b = a.tdiv b                                      (intDivide_eq_tdiv)
    intModulo a b = a.tmod b                                      (intModulo_eq_tmod)
-/

namespace Templating

/-- The most bits an integer power may have. -/
def maxPowerBits : Nat := 65536

/-- The number of bits of a natural number. -/
def bitLength (n : Nat) : Nat := if n = 0 then 0 else Nat.log2 n + 1

namespace Value

/-- A number with the sign `sign` (1 or -1) applied by multiplication, in a frame at
depth `frame`. -/
def signed (frame : Nat) (sign : Int) (v : Value) : Except EvalError Value :=
  match v.num? with
  | some n => (Value.ofNum <$> (Num.int sign).mul n).mapError .arith
  | none => .error (EvalError.showing (frame + 1) [v] (.unaryOperand v))

/-- The interpolation text of a value, computed in a frame at depth `frame`: the host runs
out of stack on a value that nests too deeply, and an integer beyond the digit limit has
no text. -/
def shownText (frame : Nat) (v : Value) : Except EvalError Text :=
  if v.overflowsAt (frame + 1) then .error (.abort (.stack Stack.comparing)) else
  match v.toText with
  | some t => .ok t
  | none => .error .intDigits

/-- The `+` operator, in a frame at depth `frame`. -/
def plus (frame : Nat) (l r : Value) : Except EvalError Value :=
  match l.num?, r.num? with
  | some a, some b => (Value.ofNum <$> a.add b).mapError .arith
  | _, _ =>
    match l, r with
    | .str _, _ | _, .str _ => do
      let a ← l.shownText (frame + 1)
      let b ← r.shownText (frame + 1)
      pure (.str (a ++ b))
    | .list xs, .list ys => .ok (.list (xs ++ ys))
    | _, _ => .error (EvalError.showing (frame + 1) [l, r] (.cannotAdd l r))

/-- An integer raised to a natural power, computed directly when the base is -1, 0 or 1. -/
def intPow (a : Int) (k : Nat) : Int :=
  if a = 0 then (if k = 0 then 1 else 0)
  else if a = 1 then 1
  else if a = -1 then (if k % 2 = 0 then 1 else -1)
  else Int.pow a k

/-- An integer raised to an integer power. -/
def intPower (a b : Int) : Except EvalError Value :=
  if a = 0 ∧ b < 0 then .error .divideByZero
  else if 1 < a.natAbs ∧ (maxPowerBits : Int) < bitLength a.natAbs * b then
    .error (.powerTooLarge a b)
  else if 0 ≤ b then .ok (.int (intPow a b.toNat))
  else
    (do
      let x ← Binary64.ofInt? a
      let y ← Binary64.ofInt? b
      let r ← x.power y
      pure (Value.float r)).mapError .arith

/-- Integer division as the host computes it: the floor quotient of the magnitudes,
negated when the signs differ. -/
def intDivide (a b : Int) : Int :=
  let quotient : Int := (a.natAbs / b.natAbs : Nat)
  if decide (a < 0) = decide (b < 0) then quotient else -quotient

/-- The integer remainder, left over by `intDivide`. -/
def intModulo (a b : Int) : Int := a - b * intDivide a b

/-- An arithmetic operator on two numbers. -/
def arithmetic (op : BinOp) (a b : Num) : Except EvalError Value :=
  match op with
  | .sub => (Value.ofNum <$> a.sub b).mapError .arith
  | .mul => (Value.ofNum <$> a.mul b).mapError .arith
  | .div =>
    if b.isZero then .error .divideByZero else
    match a, b with
    | .int x, .int y => .ok (.int (intDivide x y))
    | _, _ => (Value.ofNum <$> a.trueDiv b).mapError .arith
  | .mod =>
    if b.isZero then .error .divideByZero else
    match a, b with
    | .int x, .int y => .ok (.int (intModulo x y))
    | _, _ =>
      (do
        let x ← a.toDouble
        let y ← b.toDouble
        let r ← x.remainder y
        pure (Value.float r)).mapError .arith
  | .pow =>
    match a, b with
    | .int x, .int y => intPower x y
    | _, _ =>
      (do
        let x ← a.toDouble
        let y ← b.toDouble
        let r ← x.mathPow y
        pure (Value.float r)).mapError .arith
  | _ => .ok .null

/-- Whether an order operator holds for an ordering. -/
def holds (op : BinOp) (o : Ordering) : Bool :=
  match op with
  | .lt => o = .lt
  | .le => o ≠ .gt
  | .gt => o = .gt
  | .ge => o ≠ .lt
  | _ => false

/-- A binary operator on two values, in a frame at depth `frame`. -/
def binary (frame : Nat) (op : BinOp) (l r : Value) : Except EvalError Value :=
  match op with
  | .add => plus frame l r
  | .eq => .ok (.bool (strictEq l r))
  | .ne => .ok (.bool (!strictEq l r))
  | .lt | .le | .gt | .ge =>
    match order? l r with
    | none => .error (EvalError.showing (frame + 1) [l, r] (.incomparable op l r))
    | some none => .ok (.bool false)
    | some (some o) => .ok (.bool (holds op o))
  | op =>
    match l.num?, r.num? with
    | some a, some b => arithmetic op a b
    | _, _ => .error (EvalError.showing (frame + 1) [l, r] (.operands op l r))

end Value

/-! ## Lemmas -/

namespace Value

theorem natAbs_intDivide (a b : Int) : (intDivide a b).natAbs = a.natAbs / b.natAbs := by
  unfold intDivide
  split <;> simp only [Int.natAbs_neg, Int.natAbs_natCast]

/-- The sign test over the magnitudes' quotient is division truncated toward zero. -/
theorem intDivide_eq_tdiv (a b : Int) : intDivide a b = a.tdiv b := by
  cases a with
  | ofNat m =>
    cases b with
    | ofNat n => rfl
    | negSucc n => simp [intDivide, Int.tdiv, Int.not_lt.2 (Int.natCast_nonneg _)]
  | negSucc m =>
    cases b with
    | ofNat n => simp [intDivide, Int.tdiv, Int.not_lt.2 (Int.natCast_nonneg _)]
    | negSucc n => simp [intDivide, Int.tdiv]

theorem intModulo_eq_tmod (a b : Int) : intModulo a b = a.tmod b := by
  rw [intModulo, intDivide_eq_tdiv, Int.tmod_def]

example : intDivide (-7) 2 = -3 ∧ intModulo (-7) 2 = -1 := by decide

end Value

end Templating
