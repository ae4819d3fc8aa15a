import Mathlib
import Templating.Proofs.JsonEquality
/-!
# Integer division, remainder and powers

Integers are unbounded, and the operators `/`, `%` and `^` on two integers compute with
them exactly.

Division truncates toward zero: `a / b` divides the magnitudes and negates the quotient
when the signs differ, which is `Int.tdiv a b` (`Value.intDivide_eq_tdiv`), and `a % b` is
`a - b * (a / b)`, smaller than `b` in magnitude and either zero or of the sign of `a`
(`Int.tmod_eq_zero_or_sign`). A zero divisor, the
integer or either zero of the doubles, makes both operators fail, whatever number is
divided (`Value.binary_div_mod_of_isZero`).

An integer power `a ^ b` with `b ≥ 0` is refused when its size, estimated as the bit length
of `|a|` times `b`, passes `maxPowerBits`, unless `|a| ≤ 1`; otherwise it is the exact power,
and the estimate bounds the true size, so the power has at most `maxPowerBits` bits
(`bitLength_pow_le`). Zero to a negative power fails as a division by zero. The refusal
shows both operands in its message, and an operand beyond the digit limit has no text, so
the message is then the digit limit's (`EvalError.message_powerTooLarge`).

Main statements:

    a / b ↦ tdiv a b, a % b ↦ a - b * tdiv a b, |a % b| < |b|, a % b = 0 ∨ sign = sign a;
      a / 0, a / 0.0, a / -0.0 (and %) ↦ "Cannot divide by 0"    (integer_division_truncates)
    0 ≤ b → a ^ b ↦ if 1 < |a| ∧ maxPowerBits < bitLength |a| * b then powerTooLarge a b
      else a ^ b, with bitLength |a ^ b| ≤ maxPowerBits            (integer_power_bounded)
    2 ^ 10 ^ 4300 is refused with the digit limit's message      (power_refusal_past_digit_limit)
-/

namespace Templating

/-! ## Integers -/

theorem bitLength_le_iff {n k : Nat} : bitLength n ≤ k ↔ n < 2 ^ k := by
  unfold bitLength
  split
  · next h => subst h; simp
  · next h => rw [← Nat.log2_lt h]; omega

theorem Int.natAbs_tmod_lt_natAbs (a : Int) {b : Int} (hb : b ≠ 0) :
    (a.tmod b).natAbs < b.natAbs := by
  rw [Int.natAbs_tmod]
  exact Nat.mod_lt _ (Int.natAbs_pos.2 hb)

theorem Int.tmod_eq_zero_or_sign (a b : Int) : a.tmod b = 0 ∨ (a.tmod b).sign = a.sign := by
  have hsign := Int.sign_tmod a b
  by_cases hdvd : b ∣ a
  · rw [if_pos hdvd] at hsign
    exact .inl (Int.sign_eq_zero_iff_zero.1 hsign)
  · rw [if_neg hdvd] at hsign
    exact .inr hsign

theorem Int.toText?_of_lt {n : Int} (h : n.natAbs < 10 ^ digitLimit) :
    Int.toText? n = some (Int.toTextUnbounded n) := by
  simp [Int.toText?, Int.toTextUnbounded, Nat.pow_eq, h]

theorem Int.toText?_of_le {n : Int} (h : 10 ^ digitLimit ≤ n.natAbs) : Int.toText? n = none := by
  simp [Int.toText?, Nat.pow_eq, Nat.not_lt.2 h]

/-! ## Powers -/

namespace Value

theorem intPow_eq (a : Int) (k : Nat) : intPow a k = a ^ k := by
  unfold intPow
  by_cases h0 : a = 0
  · subst h0
    cases k <;> simp
  by_cases h1 : a = 1
  · subst h1; simp
  by_cases h2 : a = -1
  · subst h2
    simp only [h0, h1, if_false, if_true, neg_one_pow_eq_ite, Nat.even_iff]
  simp only [h0, h1, h2, if_false]
  rfl

theorem binary_pow_int (d : Nat) (a b : Int) : binary d .pow (.int a) (.int b) = intPower a b :=
  rfl

theorem intPower_of_nonneg (a : Int) {b : Int} (hb : 0 ≤ b) :
    intPower a b =
      if 1 < a.natAbs ∧ (maxPowerBits : Int) < bitLength a.natAbs * b then
        .error (.powerTooLarge a b)
      else .ok (.int (a ^ b.toNat)) := by
  simp only [intPower, intPow_eq, hb, if_true, show ¬ (a = 0 ∧ b < 0) by omega, if_false]

theorem intPower_zero_of_neg {b : Int} (hb : b < 0) : intPower 0 b = .error .divideByZero := by
  simp [intPower, hb]

end Value

/-- A power that passes the size check has at most `maxPowerBits` bits: `|a| < 2^k` for
`k` the bit length of `|a|`, so `|a|^b < 2^(k·b)`. -/
theorem bitLength_pow_le {a b : Int} (hb : 0 ≤ b)
    (h : ¬ (1 < a.natAbs ∧ (maxPowerBits : Int) < bitLength a.natAbs * b)) :
    bitLength (a ^ b.toNat).natAbs ≤ maxPowerBits := by
  rw [Int.natAbs_pow, bitLength_le_iff]
  by_cases ha : a.natAbs ≤ 1
  · -- the bases -1, 0 and 1 skip the check, and their powers have at most one bit
    calc a.natAbs ^ b.toNat ≤ 1 ^ b.toNat := Nat.pow_le_pow_left ha _
      _ = 1 := Nat.one_pow _
      _ < 2 ^ maxPowerBits := Nat.one_lt_two_pow (by decide)
  · have hbits : bitLength a.natAbs * b.toNat ≤ maxPowerBits := by
      have hle : ¬ ((maxPowerBits : Int) < bitLength a.natAbs * b) := fun h' => h ⟨by omega, h'⟩
      have hcast : ((bitLength a.natAbs * b.toNat : Nat) : Int) = bitLength a.natAbs * b := by
        rw [Nat.cast_mul, Int.toNat_of_nonneg hb]
      omega
    have hlt : a.natAbs < 2 ^ bitLength a.natAbs := bitLength_le_iff.1 (Nat.le_refl _)
    rcases Nat.eq_zero_or_pos b.toNat with h0 | hpos
    · rw [h0, Nat.pow_zero]
      exact Nat.one_lt_two_pow (by decide)
    · calc a.natAbs ^ b.toNat < (2 ^ bitLength a.natAbs) ^ b.toNat :=
            Nat.pow_lt_pow_left hlt (Nat.pos_iff_ne_zero.1 hpos)
        _ = 2 ^ (bitLength a.natAbs * b.toNat) := (Nat.pow_mul _ _ _).symm
        _ ≤ 2 ^ maxPowerBits := Nat.pow_le_pow_right (by decide) hbits

/-- The refusal of a power shows both operands; past the digit limit one of them has no
text, and the message is the digit limit's. -/
theorem EvalError.message_powerTooLarge (a b : Int) :
    (EvalError.powerTooLarge a b).message =
      if a.natAbs < 10 ^ digitLimit ∧ b.natAbs < 10 ^ digitLimit then
        Text.ofString "Result of " ++ Int.toTextUnbounded a ++ Text.ofString " ^ " ++
          Int.toTextUnbounded b ++ Text.ofString " is too large"
      else limitMessage := by
  unfold EvalError.message
  by_cases ha : a.natAbs < 10 ^ digitLimit
  · by_cases hb : b.natAbs < 10 ^ digitLimit
    · simp [EvalError.message?, Int.toText?_of_lt ha, Int.toText?_of_lt hb, ha, hb]
    · simp [EvalError.message?, Int.toText?_of_lt ha, Int.toText?_of_le (Nat.not_lt.1 hb), hb]
  · simp [EvalError.message?, Int.toText?_of_le (Nat.not_lt.1 ha), ha]

/-! ## Division -/

namespace Value

theorem binary_div_int (d : Nat) (a : Int) {b : Int} (hb : b ≠ 0) :
    binary d .div (.int a) (.int b) = .ok (.int (intDivide a b)) := by
  simp [binary, num?, arithmetic, Num.isZero, hb]

theorem binary_mod_int (d : Nat) (a : Int) {b : Int} (hb : b ≠ 0) :
    binary d .mod (.int a) (.int b) = .ok (.int (intModulo a b)) := by
  simp [binary, num?, arithmetic, Num.isZero, hb]

theorem binary_div_mod_of_isZero (d : Nat) {l r : Value} {a b : Num} (hl : l.num? = some a)
    (hr : r.num? = some b) (hb : b.isZero = true) :
    binary d .div l r = .error .divideByZero ∧ binary d .mod l r = .error .divideByZero := by
  constructor <;> simp [binary, hl, hr, arithmetic, hb]

end Value

theorem zero_divisor_num? {z : Value}
    (hz : z ∈ [.int 0, .float (Binary64.zero false), .float (Binary64.zero true)]) :
    ∃ b, z.num? = some b ∧ b.isZero = true := by
  simp only [List.mem_cons, List.not_mem_nil, or_false] at hz
  rcases hz with rfl | rfl | rfl
  exacts [⟨_, rfl, rfl⟩, ⟨_, rfl, by decide⟩, ⟨_, rfl, by decide⟩]

theorem num?_of_isNumber {a : Value} (ha : a.isNumber = true) : ∃ n, a.num? = some n := by
  cases a <;> first | exact ⟨_, rfl⟩ | cases ha

/-- **Integer division truncates toward zero.** For two integers with a divisor other than
zero, `/` gives the quotient truncated toward zero, whose magnitude is that of the
magnitudes, and `%` gives `a - b * (a / b)`, so that `a = b * (a / b) + a % b`, with
`|a % b| < |b|` and `a % b` zero or of the sign of `a`. A zero divisor, `0`, `0.0` or
`-0.0`, makes both operators fail with `Cannot divide by 0` for every number divided. -/
theorem integer_division_truncates {o : Options} {ctx : Value} {d : Nat} {l r : Expr} :
    (∀ {a b : Int}, l.eval o ctx (d + 1) = .ok (.int a) → r.eval o ctx (d + 1) = .ok (.int b) →
      b ≠ 0 → ∃ q m, (Expr.binary .div l r).eval o ctx d = .ok (.int q) ∧
        (Expr.binary .mod l r).eval o ctx d = .ok (.int m) ∧
        q = a.tdiv b ∧ q.natAbs = a.natAbs / b.natAbs ∧ m = a - b * q ∧ a = b * q + m ∧
        m.natAbs < b.natAbs ∧ (m = 0 ∨ m.sign = a.sign)) ∧
    (∀ {a z : Value}, l.eval o ctx (d + 1) = .ok a → a.isNumber = true →
      r.eval o ctx (d + 1) = .ok z →
      z ∈ [.int 0, .float (Binary64.zero false), .float (Binary64.zero true)] →
      (Expr.binary .div l r).eval o ctx d = .error .divideByZero ∧
        (Expr.binary .mod l r).eval o ctx d = .error .divideByZero) ∧
    EvalError.divideByZero.message = Text.ofString "Cannot divide by 0" := by
  refine ⟨fun {a b} hl hr hb => ?_, fun {a z} hl ha hr hz => ?_, rfl⟩
  · refine ⟨Value.intDivide a b, Value.intModulo a b, ?_, ?_, Value.intDivide_eq_tdiv a b,
      Value.natAbs_intDivide a b, rfl, (add_sub_cancel _ a).symm, ?_, ?_⟩
    · rw [Expr.eval_binary_of_ok hl hr, Value.binary_div_int _ _ hb]
    · rw [Expr.eval_binary_of_ok hl hr, Value.binary_mod_int _ _ hb]
    · rw [Value.intModulo_eq_tmod]
      exact Int.natAbs_tmod_lt_natAbs a hb
    · rw [Value.intModulo_eq_tmod]
      exact Int.tmod_eq_zero_or_sign a b
  · obtain ⟨n, hn⟩ := num?_of_isNumber ha
    obtain ⟨b, hb, hzero⟩ := zero_divisor_num? hz
    rw [Expr.eval_binary_of_ok hl hr, Expr.eval_binary_of_ok hl hr]
    exact Value.binary_div_mod_of_isZero _ hn hb hzero

/-- `-7 / 2` is `-3` and `-7 % 2` is `-1`; `5 / -0.0` fails. -/
theorem integer_division_truncates_negative :
    (Expr.binary .div (.lit (.int (-7))) (.lit (.int 2))).eval Options.standard .null 0 =
        .ok (.int (-3)) ∧
      (Expr.binary .mod (.lit (.int (-7))) (.lit (.int 2))).eval Options.standard .null 0 =
        .ok (.int (-1)) ∧
      (Expr.binary .div (.lit (.int 5)) (.lit (.float (Binary64.zero true)))).eval
        Options.standard .null 0 = .error .divideByZero := by
  obtain ⟨hint, hzero, -⟩ := @integer_division_truncates Options.standard .null 0
    (.lit (.int (-7))) (.lit (.int 2))
  obtain ⟨q, m, hq, hm, rfl, -, rfl, -⟩ := hint rfl rfl (by decide)
  refine ⟨hq, hm, ?_⟩
  exact (@integer_division_truncates Options.standard .null 0 (.lit (.int 5))
    (.lit (.float (Binary64.zero true)))).2.1 rfl rfl rfl (by simp) |>.1

/-! ## Powers of integers -/

/-- **Integer powers are exact and bounded.** For integers `a` and `b ≥ 0`, `a ^ b` fails
exactly when `|a| > 1` and the bit length of `|a|` times `b` passes `maxPowerBits`; it is
otherwise the exact power, which then has at most `maxPowerBits` bits. Zero to a negative
power fails with `Cannot divide by 0`. The refusal's message names the operands when both
are within the digit limit, and is the digit limit's message otherwise. -/
theorem integer_power_bounded {o : Options} {ctx : Value} {d : Nat} {l r : Expr} :
    (∀ {a b : Int}, l.eval o ctx (d + 1) = .ok (.int a) → r.eval o ctx (d + 1) = .ok (.int b) →
      0 ≤ b →
      (Expr.binary .pow l r).eval o ctx d =
          (if 1 < a.natAbs ∧ (maxPowerBits : Int) < bitLength a.natAbs * b then
            .error (.powerTooLarge a b)
          else .ok (.int (a ^ b.toNat))) ∧
        (¬ (1 < a.natAbs ∧ (maxPowerBits : Int) < bitLength a.natAbs * b) →
          bitLength (a ^ b.toNat).natAbs ≤ maxPowerBits)) ∧
    (∀ {b : Int}, l.eval o ctx (d + 1) = .ok (.int 0) → r.eval o ctx (d + 1) = .ok (.int b) →
      b < 0 → (Expr.binary .pow l r).eval o ctx d = .error .divideByZero) ∧
    (∀ a b : Int, (EvalError.powerTooLarge a b).message =
      if a.natAbs < 10 ^ digitLimit ∧ b.natAbs < 10 ^ digitLimit then
        Text.ofString "Result of " ++ Int.toTextUnbounded a ++ Text.ofString " ^ " ++
          Int.toTextUnbounded b ++ Text.ofString " is too large"
      else limitMessage) ∧
    EvalError.divideByZero.message = Text.ofString "Cannot divide by 0" := by
  refine ⟨fun {a b} hl hr hb => ⟨?_, bitLength_pow_le hb⟩, fun {b} hl hr hb => ?_,
    EvalError.message_powerTooLarge, rfl⟩
  · rw [Expr.eval_binary_of_ok hl hr, Value.binary_pow_int, Value.intPower_of_nonneg a hb]
  · rw [Expr.eval_binary_of_ok hl hr, Value.binary_pow_int, Value.intPower_zero_of_neg hb]

/-- `2 ^ 64` is computed exactly, and `0 ^ -1` fails. -/
theorem integer_power_two_sixty_four :
    (Expr.binary .pow (.lit (.int 2)) (.lit (.int 64))).eval Options.standard .null 0 =
        .ok (.int 18446744073709551616) ∧
      (Expr.binary .pow (.lit (.int 0)) (.lit (.int (-1)))).eval Options.standard .null 0 =
        .error .divideByZero := by
  obtain ⟨hpow, hzero, -⟩ := @integer_power_bounded Options.standard .null 0
    (.lit (.int 2)) (.lit (.int 64))
  obtain ⟨heval, -⟩ := hpow rfl rfl (by decide)
  have hguard : ¬ (1 < (2 : Int).natAbs ∧ (maxPowerBits : Int) < bitLength (2 : Int).natAbs * 64) := by
    decide
  refine ⟨by rw [heval, if_neg hguard]; rfl, ?_⟩
  exact (@integer_power_bounded Options.standard .null 0 (.lit (.int 0)) (.lit (.int (-1)))).2.1
    rfl rfl (by decide)

/-- **Past the digit limit a refused power loses its message.** In `2 ^ 10 ^ 4300` the
inner power is allowed and has 4301 digits; the outer one passes the size bound, yet its
failure says that an integer is too long to be shown, not that the result of the power is
too large. -/
theorem power_refusal_past_digit_limit :
    (Expr.binary .pow (.lit (.int 2)) (.binary .pow (.lit (.int 10)) (.lit (.int 4300)))).eval
        Options.standard .null 7 = .error (.powerTooLarge 2 (10 ^ digitLimit)) ∧
      (1 < (2 : Int).natAbs ∧
        (maxPowerBits : Int) < bitLength (2 : Int).natAbs * 10 ^ digitLimit) ∧
      (EvalError.powerTooLarge 2 (10 ^ digitLimit)).message = limitMessage ∧
      ¬ Text.ofString "Result of " <+: limitMessage := by
  have hlarge : (65536 : Int) < 10 ^ digitLimit := by
    calc (65536 : Int) < 10 ^ 5 := by decide
      _ ≤ 10 ^ digitLimit := pow_le_pow_right₀ (by decide) (by decide)
  have hguard : 1 < (2 : Int).natAbs ∧
      (maxPowerBits : Int) < bitLength (2 : Int).natAbs * 10 ^ digitLimit := by
    refine ⟨by decide, ?_⟩
    have h2 : bitLength (2 : Int).natAbs = 2 := by decide
    rw [h2, show ((maxPowerBits : Nat) : Int) = 65536 from rfl]
    omega
  have hinner : (Expr.binary .pow (.lit (.int 10)) (.lit (.int 4300))).eval Options.standard
      .null 8 = .ok (.int (10 ^ digitLimit)) := by
    rw [Expr.eval_binary_of_ok rfl rfl, Value.binary_pow_int,
      Value.intPower_of_nonneg _ (by decide), if_neg (by decide)]
    rfl
  refine ⟨?_, hguard, ?_, by decide +kernel⟩
  · rw [Expr.eval_binary_of_ok rfl hinner, Value.binary_pow_int,
      Value.intPower_of_nonneg _ (by positivity), if_pos hguard]
  · rw [EvalError.message_powerTooLarge, if_neg]
    rintro ⟨-, hb⟩
    generalize digitLimit = N at hb
    rw [Int.natAbs_pow] at hb
    exact Nat.lt_irrefl _ hb

end Templating
