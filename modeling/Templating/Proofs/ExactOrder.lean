import Mathlib
import Templating.Proofs.JsonEquality
import Templating.Proofs.RoundingInterval
/-!
# Integers against doubles, exactly

A double that is not NaN stands for an exact value (`Binary64.value?`): a finite double is
the dyadic rational `±mag / 2^1074` of its shape, and the infinities lie below and above
every rational. Its order against an integer is the order of these exact values
(`Binary64.compareInt?_of_value?`), never that of the integer rounded to a double: the
integer `2^53 + 1` lies above the double `2^53`, though it rounds to it.

So the comparison operators, equality and `max` and `min` between an integer and a double all
follow one order, the order of the rationals extended by both infinities: `i < x` holds
exactly when the integer lies below the double's value, `i == x` exactly when it is that value,
and `max` and `min` keep their first argument unless the other is strictly beyond it.

Main statements:

    i ↦ int, x ↦ double with value v →
      (i < x) ↦ i < v, (i == x) ↦ i = v, (i > x) ↦ v < i, (i <= x), (i >= x), (i != x),
      max(i, x), min(i, x), max(x, i), min(x, i) by the same order  (mixed_comparison_exact)
    9007199254740993 > 9007199254740992.0, 9007199254740993 != 9007199254740992.0
                                                          (mixed_comparison_exact_two_pow_53)
-/

namespace Templating

theorem compare_eq_of_lt_iff {α β : Type} [LinearOrder α] [LinearOrder β] {a b : α} {c d : β}
    (hlt : a < b ↔ c < d) (hgt : b < a ↔ d < c) : compare a b = compare c d := by
  rcases lt_trichotomy c d with h | h | h
  · rw [compare_lt_iff_lt.2 h, compare_lt_iff_lt.2 (hlt.2 h)]
  · have hab : a = b := le_antisymm (not_lt.1 fun h' => (lt_irrefl d) (h ▸ hgt.1 h'))
      (not_lt.1 fun h' => (lt_irrefl c) (h ▸ hlt.1 h'))
    rw [compare_eq_iff_eq.2 hab, compare_eq_iff_eq.2 h]
  · rw [compare_gt_iff_gt.2 h, compare_gt_iff_gt.2 (hgt.2 h)]

/-! ## The exact value of a double -/

namespace Binary64

/-- The exact value of a double that is not NaN: a finite double is the dyadic rational
`±mag / 2^1074` it denotes (`unitScale` is `2^1074`), and the infinities lie below and above
every rational. -/
def value? (x : Binary64) : Option (WithBot (WithTop ℚ)) :=
  match x.shape with
  | .nan => none
  | .infinite neg => some (if neg then ⊥ else ⊤)
  | .finite neg mag => some (((signed neg mag : ℚ) / unitScale : ℚ) : WithTop ℚ)

end Binary64

theorem intCast_lt_div_unitScale {i s : Int} :
    (i : ℚ) < (s : ℚ) / Binary64.unitScale ↔ i * Binary64.unitScale < s := by
  have hpos : (0 : ℚ) < Binary64.unitScale := by exact_mod_cast Binary64.unitScale_pos
  rw [lt_div_iff₀ hpos]
  exact_mod_cast Iff.rfl

theorem div_unitScale_lt_intCast {i s : Int} :
    (s : ℚ) / Binary64.unitScale < i ↔ s < i * Binary64.unitScale := by
  have hpos : (0 : ℚ) < Binary64.unitScale := by exact_mod_cast Binary64.unitScale_pos
  rw [div_lt_iff₀ hpos]
  exact_mod_cast Iff.rfl

/-- A double compares with an integer as its exact value does. The model scales the integer
by `2^1074` and compares integers; the exact order divides the double's integer by it. -/
theorem Binary64.compareInt?_of_value? {x : Binary64} {v : WithBot (WithTop ℚ)}
    (hv : x.value? = some v) (i : Int) :
    x.compareInt? i = some (compare v (((i : ℚ) : WithTop ℚ) : WithBot (WithTop ℚ))) := by
  unfold Binary64.value? at hv
  unfold Binary64.compareInt?
  cases hs : x.shape with
  | nan => simp [hs] at hv
  | infinite neg =>
    simp only [hs, Option.some.injEq] at hv
    subst hv
    cases neg
    · simp only [Bool.false_eq_true, if_false, Option.some.injEq]
      rw [eq_comm, compare_gt_iff_gt]
      exact WithBot.coe_lt_coe.2 (WithTop.coe_lt_top _)
    · simp only [if_true, Option.some.injEq]
      rw [eq_comm, compare_lt_iff_lt]
      exact WithBot.bot_lt_coe _
  | finite neg mag =>
    simp only [hs, Option.some.injEq] at hv
    subst hv
    dsimp only
    congr 1
    apply compare_eq_of_lt_iff
    · rw [WithBot.coe_lt_coe, WithTop.coe_lt_coe]; exact div_unitScale_lt_intCast.symm
    · rw [WithBot.coe_lt_coe, WithTop.coe_lt_coe]; exact intCast_lt_div_unitScale.symm

theorem Num.compare?_int_float (i : Int) {x : Binary64} {v : WithBot (WithTop ℚ)}
    (hv : x.value? = some v) :
    Num.compare? (.int i) (.float x) =
      some (compare (((i : ℚ) : WithTop ℚ) : WithBot (WithTop ℚ)) v) := by
  show (x.compareInt? i).map Ordering.swap = _
  rw [Binary64.compareInt?_of_value? hv, Option.map_some, ← Std.OrientedOrd.eq_swap]

theorem Num.compare?_float_int (i : Int) {x : Binary64} {v : WithBot (WithTop ℚ)}
    (hv : x.value? = some v) :
    Num.compare? (.float x) (.int i) =
      some (compare v (((i : ℚ) : WithTop ℚ) : WithBot (WithTop ℚ))) :=
  Binary64.compareInt?_of_value? hv i

/-! ## Operators and builtins -/

namespace Value

theorem binary_order_int_float (d : Nat) {op : BinOp}
    (hop : op = .lt ∨ op = .le ∨ op = .gt ∨ op = .ge) (i : Int) {x : Binary64}
    {v : WithBot (WithTop ℚ)} (hv : x.value? = some v) :
    binary d op (.int i) (.float x) =
      .ok (.bool (holds op (compare (((i : ℚ) : WithTop ℚ) : WithBot (WithTop ℚ)) v))) := by
  have horder : order? (.int i) (.float x) = some (Num.compare? (.int i) (.float x)) := rfl
  rcases hop with rfl | rfl | rfl | rfl <;>
    simp only [binary, horder, Num.compare?_int_float i hv]

/-- An integer equals a double exactly when it is the double's value; the equality of the
host reads both as numbers. -/
theorem strictEq_int_float (i : Int) {x : Binary64} {v : WithBot (WithTop ℚ)}
    (hv : x.value? = some v) :
    strictEq (.int i) (.float x) = decide ((((i : ℚ) : WithTop ℚ) : WithBot (WithTop ℚ)) = v) := by
  have hloose : looseEq (.int i) (.float x) =
      decide (Num.compare? (.int i) (.float x) = some .eq) := by
    simp [looseEq, numericView, num?]
  simp [strictEq, isBool, hloose, Num.compare?_int_float i hv]

end Value

namespace Builtin

theorem pickExtreme_pair (frame : Nat) (fn : Builtin) (better : Ordering) {a b : Value}
    {na nb : Num} (ha : a.num? = some na) (hb : b.num? = some nb) :
    pickExtreme frame fn better [a, b] =
      .ok (Value.ofNum (if Num.compare? nb na = some better then nb else na)) := by
  have hnums : numbers (frame + 3) fn [a, b] = .ok [na, nb] := by
    simp only [numbers, List.isEmpty_cons, Bool.false_eq_true, if_false, List.mapM_cons,
      List.mapM_nil, number, ha, hb]
    rfl
  rw [pickExtreme, hnums]
  rfl

theorem apply_max_pair (frame : Nat) (a b : Value) :
    apply frame .max [a, b] = pickExtreme frame .max .gt [a, b] := rfl

theorem apply_min_pair (frame : Nat) (a b : Value) :
    apply frame .min [a, b] = pickExtreme frame .min .lt [a, b] := rfl

theorem apply_extreme_int_float (frame : Nat) (i : Int) {x : Binary64}
    {v : WithBot (WithTop ℚ)} (hv : x.value? = some v) :
    apply frame .max [.int i, .float x] =
        .ok (if (((i : ℚ) : WithTop ℚ) : WithBot (WithTop ℚ)) < v then .float x else .int i) ∧
      apply frame .min [.int i, .float x] =
        .ok (if v < (((i : ℚ) : WithTop ℚ) : WithBot (WithTop ℚ)) then .float x else .int i) ∧
      apply frame .max [.float x, .int i] =
        .ok (if v < (((i : ℚ) : WithTop ℚ) : WithBot (WithTop ℚ)) then .int i else .float x) ∧
      apply frame .min [.float x, .int i] =
        .ok (if (((i : ℚ) : WithTop ℚ) : WithBot (WithTop ℚ)) < v then .int i else .float x) := by
  refine ⟨?_, ?_, ?_, ?_⟩
  · rw [apply_max_pair, pickExtreme_pair _ _ _ rfl rfl, Num.compare?_float_int i hv]
    simp only [Option.some.injEq, compare_gt_iff_gt]
    split <;> rfl
  · rw [apply_min_pair, pickExtreme_pair _ _ _ rfl rfl, Num.compare?_float_int i hv]
    simp only [Option.some.injEq, compare_lt_iff_lt]
    split <;> rfl
  · rw [apply_max_pair, pickExtreme_pair _ _ _ rfl rfl, Num.compare?_int_float i hv]
    simp only [Option.some.injEq, compare_gt_iff_gt]
    split <;> rfl
  · rw [apply_min_pair, pickExtreme_pair _ _ _ rfl rfl, Num.compare?_int_float i hv]
    simp only [Option.some.injEq, compare_lt_iff_lt]
    split <;> rfl

end Builtin

/-- **Integers and doubles compare exactly.** For an integer `i` and a double that is not
NaN, with exact value `v`, `i < x`, `i == x` and `i > x` give `i < v`, `i = v` and `v < i`
in the order of the rationals with both infinities, so exactly one of them is true;
`<=`, `>=` and `!=` give `i ≤ v`, `v ≤ i` and `i ≠ v`, and `max` and `min`, with the
numbers in either order, give the greater and the lesser by that order, the first of two
equal ones. -/
theorem mixed_comparison_exact {o : Options} {ctx : Value} {d : Nat} {l r : Expr} {i : Int}
    {x : Binary64} {v : WithBot (WithTop ℚ)} (hl : l.eval o ctx (d + 1) = .ok (.int i))
    (hr : r.eval o ctx (d + 1) = .ok (.float x)) (hv : x.value? = some v) :
    (Expr.binary .lt l r).eval o ctx d =
        .ok (.bool (decide ((((i : ℚ) : WithTop ℚ) : WithBot (WithTop ℚ)) < v))) ∧
      (Expr.binary .eq l r).eval o ctx d =
        .ok (.bool (decide ((((i : ℚ) : WithTop ℚ) : WithBot (WithTop ℚ)) = v))) ∧
      (Expr.binary .gt l r).eval o ctx d =
        .ok (.bool (decide (v < (((i : ℚ) : WithTop ℚ) : WithBot (WithTop ℚ))))) ∧
      (Expr.binary .le l r).eval o ctx d =
        .ok (.bool (decide ((((i : ℚ) : WithTop ℚ) : WithBot (WithTop ℚ)) ≤ v))) ∧
      (Expr.binary .ge l r).eval o ctx d =
        .ok (.bool (decide (v ≤ (((i : ℚ) : WithTop ℚ) : WithBot (WithTop ℚ))))) ∧
      (Expr.binary .ne l r).eval o ctx d =
        .ok (.bool (decide ((((i : ℚ) : WithTop ℚ) : WithBot (WithTop ℚ)) ≠ v))) ∧
      ∀ frame, Builtin.apply frame .max [.int i, .float x] =
          .ok (if (((i : ℚ) : WithTop ℚ) : WithBot (WithTop ℚ)) < v then .float x else .int i) ∧
        Builtin.apply frame .min [.int i, .float x] =
          .ok (if v < (((i : ℚ) : WithTop ℚ) : WithBot (WithTop ℚ)) then .float x else .int i) ∧
        Builtin.apply frame .max [.float x, .int i] =
          .ok (if v < (((i : ℚ) : WithTop ℚ) : WithBot (WithTop ℚ)) then .int i else .float x) ∧
        Builtin.apply frame .min [.float x, .int i] =
          .ok (if (((i : ℚ) : WithTop ℚ) : WithBot (WithTop ℚ)) < v then .int i else .float x) := by
  simp only [Expr.eval_binary_of_ok hl hr]
  refine ⟨?_, ?_, ?_, ?_, ?_, ?_, fun frame => Builtin.apply_extreme_int_float frame i hv⟩
  · rw [Value.binary_order_int_float _ (by simp) i hv]
    simp [Value.holds, compare_lt_iff_lt]
  · simp [Value.binary, Value.strictEq_int_float i hv]
  · rw [Value.binary_order_int_float _ (by simp) i hv]
    simp [Value.holds, compare_gt_iff_gt]
  · rw [Value.binary_order_int_float _ (by simp) i hv]
    simp [Value.holds, compare_le_iff_le]
  · rw [Value.binary_order_int_float _ (by simp) i hv]
    simp [Value.holds, compare_ge_iff_ge]
  · simp [Value.binary, Value.strictEq_int_float i hv]

/-- `2^53 + 1` lies above the double `2^53` and differs from it, though it rounds to it. -/
theorem mixed_comparison_exact_two_pow_53 :
    (Expr.binary .gt (.lit (.int 9007199254740993)) (.lit (.float ⟨0x4340000000000000⟩))).eval
        Options.standard .null 0 = .ok (.bool true) ∧
      (Expr.binary .ne (.lit (.int 9007199254740993)) (.lit (.float ⟨0x4340000000000000⟩))).eval
        Options.standard .null 0 = .ok (.bool true) := by
  have hshape : (⟨0x4340000000000000⟩ : Binary64).shape =
      .finite false (9007199254740992 * Binary64.unitScale) := by
    decide +kernel
  have hv : Binary64.value? ⟨0x4340000000000000⟩ =
      some (((9007199254740992 : ℚ) : WithTop ℚ) : WithBot (WithTop ℚ)) := by
    have hU : (Binary64.unitScale : ℚ) ≠ 0 := by exact_mod_cast Binary64.unitScale_pos.ne'
    rw [Binary64.value?, hshape]
    simp only [Binary64.signed, Bool.false_eq_true, if_false, Nat.cast_mul, Int.cast_mul,
      Int.cast_natCast, mul_div_cancel_right₀ _ hU]
    rfl
  obtain ⟨-, -, hgt, -, -, hne, -⟩ := @mixed_comparison_exact Options.standard .null 0
    (.lit (.int 9007199254740993)) (.lit (.float ⟨0x4340000000000000⟩)) _ _ _ rfl rfl hv
  have hlt : ((9007199254740992 : ℚ) : WithTop ℚ) < (((9007199254740993 : Int) : ℚ) : WithTop ℚ) := by
    rw [WithTop.coe_lt_coe]
    norm_num
  refine ⟨hgt.trans ?_, hne.trans ?_⟩
  · rw [decide_eq_true (WithBot.coe_lt_coe.2 hlt)]
  · rw [decide_eq_true (WithBot.coe_lt_coe.2 hlt).ne']

end Templating
