import Templating.Proofs.ExactOrder
import Templating.Proofs.SplitJoin
/-!
# Rounding an integer

`round(n)` with no digits takes the path of a double: the magnitude `|n|` becomes the
nearest double `D`, a half is added and the sum floored, the floor divided by one into a
double `q`, and `q` given the sign of the double of `n` and truncated (`Builtin.roundTo`).
For an integer that path is exact only in part, and there are three regimes:

* below `2^52` every step is exact and `round(n) = n`;
* from `2^52` to `2^53` the doubles are the integers, so `|n| + 1/2` is a tie between two of
  them and goes to the even one: an odd `n` moves one step away from zero;
* from `2^53` up the half is lost in the sum, and `round(n)` is `int(float(n))`, the
  integer value of the double nearest `n`, failing with "int too large to convert to float"
  where that double overflows.

The facts about doubles it takes: the double of `-a` is that of `a` with the sign bit
flipped (`ofInt_of_neg`), so copying the sign of `n` onto the double of `|n|` gives the
double of `n` (`copySign_ofInt_natAbs`); a multiple `c · 2^s` of the unit with `c < 2^53`
is a double exactly (`shape_ofRatio_dyadic`), and one near it rounds on the scale `2^s`
with ties to even (`shape_ofRatio_near`).

Main statements:

    e ⇓ n → round(e) ⇓ (n                        if |n| < 2^52
                        n or n + sign n, to even   if 2^52 ≤ |n| < 2^53
                        int(float(n))              otherwise)            (round_of_integer)
-/

namespace Templating

namespace Binary64

/-! ## The sign bit -/

theorem fields_neg (x : Binary64) :
    x.neg.signBit = !x.signBit ∧ x.neg.exponentField = x.exponentField ∧
      x.neg.fractionField = x.fractionField := by
  have hbits : x.neg.bits.toNat = x.bits.toNat ^^^ 2 ^ 63 := by
    simp [neg]
  have hlt := x.bits.toNat_lt
  unfold signBit exponentField fractionField
  simp only [Nat.pow_eq, hbits]
  generalize x.bits.toNat = a at hlt ⊢
  refine ⟨?_, ?_, ?_⟩
  · have hq : (a ^^^ 2 ^ 63) / 2 ^ 63 = a / 2 ^ 63 ^^^ 1 := by
      rw [Nat.xor_div_two_pow, Nat.div_self (by positivity)]
    by_cases ha : 2 ^ 63 ≤ a
    · have h1 : a / 2 ^ 63 = 1 := by omega
      rw [h1, Nat.xor_self] at hq
      simp only [ha, decide_true, Bool.not_true, decide_eq_false_iff_not, not_le]
      omega
    · have h0 : a / 2 ^ 63 = 0 := by omega
      rw [h0, Nat.zero_xor] at hq
      simp only [ha, decide_false, Bool.not_false, decide_eq_true_eq]
      omega
  · rw [Nat.xor_div_two_pow, Nat.xor_mod_two_pow]
    norm_num
  · rw [Nat.xor_mod_two_pow]
    norm_num

theorem neg_eq_ofFields (x : Binary64) :
    x.neg = ofFields (!x.signBit) x.exponentField x.fractionField := by
  obtain ⟨hs, he, hf⟩ := fields_neg x
  rw [← hs, ← he, ← hf, ofFields_fields]

theorem neg_ofFields {neg : Bool} {e f : Nat} (he : e < 2048) (hf : f < Nat.pow 2 52) :
    (ofFields neg e f).neg = ofFields (!neg) e f := by
  obtain ⟨hs, he', hf'⟩ := @fields_ofFields neg e f he hf
  rw [neg_eq_ofFields, hs, he', hf']

theorem signBit_of_shape {x : Binary64} {s : Bool} {m : Nat} (h : x.shape = .finite s m) :
    x.signBit = s := by
  unfold shape at h
  dsimp only at h
  split_ifs at h <;> cases h <;> rfl

theorem shape_neg_of_finite {x : Binary64} {s : Bool} {m : Nat} (h : x.shape = .finite s m) :
    x.neg.shape = .finite (!s) m := by
  obtain ⟨hs, he, hf⟩ := fields_neg x
  unfold shape at h ⊢
  dsimp only at h ⊢
  rw [hs, he, hf]
  split_ifs at h ⊢ <;> simp_all

theorem isInfinite_neg (x : Binary64) : x.neg.isInfinite = x.isInfinite := by
  obtain ⟨hs, he, hf⟩ := fields_neg x
  unfold isInfinite shape
  dsimp only
  rw [hs, he, hf]
  split_ifs <;> rfl

theorem copySign_self (x : Binary64) : x.copySign x = x :=
  if_pos rfl

theorem copySign_neg_self (x : Binary64) : x.copySign x.neg = x.neg := by
  unfold copySign
  rw [(fields_neg x).1]
  cases x.signBit <;> rfl

theorem copySign_of_signBit_eq {x y : Binary64} (h : x.signBit = y.signBit) :
    x.copySign y = x :=
  if_pos h

theorem copySign_of_signBit_ne {x y : Binary64} (h : x.signBit ≠ y.signBit) :
    x.copySign y = x.neg :=
  if_neg h

/-! ## Doubles from their fields -/

theorem shape_ofFields {neg : Bool} {e f : Nat} (he : 0 < e) (he' : e < 2047)
    (hf : f < Nat.pow 2 52) :
    (ofFields neg e f).shape = .finite neg ((Nat.pow 2 52 + f) * Nat.pow 2 (e - 1)) := by
  obtain ⟨hs, hex, hfr⟩ := @fields_ofFields neg e f (by omega) hf
  unfold shape
  dsimp only
  rw [hs, hex, hfr, if_neg (by omega), if_neg (by omega)]

theorem magnitude_ofFields {neg : Bool} {e f : Nat} (he : 0 < e) (he' : e < 2048)
    (hf : f < Nat.pow 2 52) :
    (ofFields neg e f).magnitude = (Nat.pow 2 52 + f) * Nat.pow 2 (e - 1) := by
  obtain ⟨-, hex, hfr⟩ := @fields_ofFields neg e f he' hf
  unfold magnitude significand scale
  rw [hex, hfr, if_neg (by omega), if_neg (by omega)]

/-! ## The unit as a power of two

The unit is `2^1074`. Lean does not evaluate a power whose exponent passes 256, and warns
where a step tries to; these facts keep the exponent a variable while they are proved, and
later proofs cite them instead of unfolding the unit. -/

theorem unitScale_eq_pow : unitScale = Nat.pow 2 1074 := by
  unfold unitScale
  rfl

theorem unitScale_eq_two_mul : unitScale = 2 * Nat.pow 2 1073 := by
  rw [unitScale_eq_pow, show (1074 : Nat) = 1073 + 1 from rfl]
  generalize (1073 : Nat) = N
  rw [Nat.pow_eq, Nat.pow_eq, Nat.pow_succ, Nat.mul_comm]

theorem half_unit_pos : 0 < Nat.pow 2 1073 := by
  generalize (1073 : Nat) = N
  exact Nat.pow_pos (by decide)

theorem two_pow_le_unitScale {k : Nat} (hk : k ≤ 1074) : Nat.pow 2 k ≤ unitScale := by
  rw [unitScale_eq_pow]
  generalize (1074 : Nat) = N at hk ⊢
  rw [Nat.pow_eq, Nat.pow_eq]
  exact Nat.pow_le_pow_right (by decide) hk

theorem unitScale_lt_two_pow {s : Nat} (hs : 1074 < s) : unitScale < Nat.pow 2 s := by
  rw [unitScale_eq_pow]
  generalize (1074 : Nat) = N at hs ⊢
  rw [Nat.pow_eq, Nat.pow_eq]
  exact Nat.pow_lt_pow_right (by decide) hs

theorem unitScale_dvd_two_pow {s : Nat} (hs : 1074 ≤ s) : unitScale ∣ Nat.pow 2 s := by
  rw [unitScale_eq_pow]
  generalize (1074 : Nat) = N at hs ⊢
  rw [Nat.pow_eq, Nat.pow_eq]
  exact Nat.pow_dvd_pow 2 hs

theorem two_pow_add_unitScale (k : Nat) : Nat.pow 2 (k + 1074) = Nat.pow 2 k * unitScale := by
  rw [unitScale_eq_pow]
  generalize (1074 : Nat) = N
  rw [Nat.pow_eq, Nat.pow_eq, Nat.pow_eq, Nat.pow_add]

theorem le_log2_mul_unitScale {a k : Nat} (h : Nat.pow 2 k ≤ a) :
    k + 1074 ≤ Nat.log2 (a * unitScale) := by
  have ha : 0 < a := lt_of_lt_of_le (Nat.pow_pos (by decide)) h
  rw [Nat.le_log2 (Nat.mul_pos ha unitScale_pos).ne', ← Nat.pow_eq, two_pow_add_unitScale]
  exact Nat.mul_le_mul_right _ h

/-! ## Integers as doubles -/

theorem ofInt_eq (n : Int) : ofInt n = ofRatio (decide (n < 0)) (n.natAbs * unitScale) 1 := by
  have hU : (0 : Int) < unitScale := by exact_mod_cast unitScale_pos
  have hsign : (n * unitScale < 0) ↔ n < 0 := by
    constructor <;> intro h <;> nlinarith
  unfold ofInt ofUnits
  rw [Int.natAbs_mul, Int.natAbs_natCast, decide_eq_decide.2 hsign]

theorem ofIntRatio_one (a : Int) : ofIntRatio a 1 = ofInt a := by
  rw [ofIntRatio, ofInt_eq, Int.natAbs_one, show decide ((1 : Int) < 0) = false by decide,
    Bool.bne_false]

theorem two_pow_53_le_mul_unitScale {a : Nat} (ha : 0 < a) : Nat.pow 2 53 ≤ a * unitScale :=
  calc Nat.pow 2 53 ≤ unitScale := two_pow_le_unitScale (by decide)
    _ ≤ a * unitScale := Nat.le_mul_of_pos_left _ ha

/-- From `2^53` units up, a ratio over one rounds to an infinity or to a double with
exponent at least that of its top bit, the same for either sign. -/
theorem ofRatio_one_large {num : Nat} (h : Nat.pow 2 53 ≤ num) :
    (∀ neg, ofRatio neg num 1 = infinity neg) ∨
      ∃ e f, Nat.log2 num - 51 ≤ e ∧ e < 2047 ∧ f < Nat.pow 2 52 ∧
        ∀ neg, ofRatio neg num 1 = ofFields neg e f := by
  have hnum : num ≠ 0 := by simp only [Nat.pow_eq] at h; omega
  have hlog : 53 ≤ Nat.log2 num := (Nat.le_log2 hnum).2 (by simpa only [Nat.pow_eq] using h)
  have hq : 0 < Nat.pow 2 (Nat.log2 num - 52) := Nat.pow_pos (by decide)
  have hlo : Nat.pow 2 52 ≤ num / Nat.pow 2 (Nat.log2 num - 52) := by
    rw [Nat.le_div_iff_mul_le hq, Nat.pow_eq, Nat.pow_eq, ← Nat.pow_add,
      show 52 + (Nat.log2 num - 52) = Nat.log2 num by omega]
    exact Nat.log2_self_le hnum
  have hhi : num / Nat.pow 2 (Nat.log2 num - 52) < Nat.pow 2 53 := by
    rw [Nat.div_lt_iff_lt_mul hq, Nat.pow_eq, Nat.pow_eq, ← Nat.pow_add,
      show 53 + (Nat.log2 num - 52) = Nat.log2 num + 1 by omega]
    exact Nat.lt_log2_self
  simp only [ofRatio, one_ne_zero, if_false, Nat.div_one, Nat.one_mul, if_neg (Nat.not_lt.2 h)]
  generalize hK : Nat.log2 num - 52 = K at hq hlo hhi ⊢
  generalize num / Nat.pow 2 K = m₀ at hlo hhi ⊢
  have h53 : Nat.pow 2 53 = 2 * Nat.pow 2 52 := Nat.mul_comm _ _
  generalize num % Nat.pow 2 K = r
  generalize (decide (Nat.pow 2 K < 2 * r) || decide (2 * r = Nat.pow 2 K) && decide (m₀ % 2 = 1)) = up
  -- the significand rounds to `m₀` or up to `m₀ + 1`, carrying into the exponent at `2^53`
  obtain ⟨m₁, hm₁, hup⟩ : ∃ m₁, (if up = true then m₀ + 1 else m₀) = m₁ ∧ m₀ ≤ m₁ ∧ m₁ ≤ m₀ + 1 :=
    ⟨_, rfl, by split <;> omega⟩
  rw [hm₁]
  by_cases hc : m₁ = Nat.pow 2 53
  · simp only [hc, if_true]
    by_cases hinf : 2045 < K + 1
    · exact .inl fun neg => if_pos hinf
    · simp only [if_neg hinf, if_neg (Nat.lt_irrefl _), Nat.sub_self]
      exact .inr ⟨K + 2, 0, by omega, by omega, Nat.pow_pos (by decide), fun neg => rfl⟩
  · simp only [hc, if_false]
    by_cases hinf : 2045 < K
    · exact .inl fun neg => if_pos hinf
    · have hsmall : ¬ m₁ < Nat.pow 2 52 := by omega
      simp only [if_neg hinf, if_neg hsmall]
      exact .inr ⟨K + 1, m₁ - Nat.pow 2 52, by omega, by omega, by omega, fun neg => rfl⟩

theorem ofInt_of_neg {n : Int} (hn : n < 0) : ofInt n = (ofInt n.natAbs).neg := by
  rw [ofInt_eq, ofInt_eq, Int.natAbs_natCast, decide_eq_true hn,
    decide_eq_false (by omega : ¬ ((n.natAbs : Int) < 0))]
  have ha : 0 < n.natAbs := Int.natAbs_pos.2 (by omega)
  rcases ofRatio_one_large (two_pow_53_le_mul_unitScale ha) with hinf | ⟨e, f, -, he, hf, hfields⟩
  · rw [hinf, hinf, infinity, infinity, neg_ofFields (by decide) (Nat.pow_pos (by decide))]
    rfl
  · rw [hfields, hfields, neg_ofFields (by omega) hf]
    rfl

theorem copySign_ofInt_natAbs (n : Int) : (ofInt n.natAbs).copySign (ofInt n) = ofInt n := by
  by_cases hn : n < 0
  · rw [ofInt_of_neg hn, copySign_neg_self]
  · rw [Int.natAbs_of_nonneg (by omega), copySign_self]

theorem isInfinite_ofInt_natAbs (n : Int) : (ofInt n).isInfinite = (ofInt n.natAbs).isInfinite := by
  by_cases hn : n < 0
  · rw [ofInt_of_neg hn, isInfinite_neg]
  · rw [Int.natAbs_of_nonneg (by omega)]

/-! ## Exact doubles and rounding on a fixed scale -/

/-- A multiple `c · 2^s` of units with `c` below `2^53` is a double exactly, for a scale
`s` from 52 up to the top of the range: its 53 bits fit the significand. -/
theorem shape_ofRatio_dyadic {c s : Nat} (hc : c < Nat.pow 2 53) (hs : 52 ≤ s) (hs' : s ≤ 2045)
    (neg : Bool) : (ofRatio neg (c * Nat.pow 2 s) 1).shape = .finite neg (c * Nat.pow 2 s) := by
  rcases Nat.eq_zero_or_pos c with rfl | hc0
  · rw [Nat.zero_mul]
    cases neg <;> decide +kernel
  -- normalise `c` to a significand `c · 2^(52 - p)` in `[2^52, 2^53)`, `p` its top bit
  have hp : Nat.log2 c < 53 := (Nat.log2_lt hc0.ne').2 (by simpa only [Nat.pow_eq] using hc)
  have hlo : 2 ^ Nat.log2 c ≤ c := Nat.log2_self_le hc0.ne'
  have hhi : c < 2 ^ (Nat.log2 c + 1) := Nat.lt_log2_self
  generalize Nat.log2 c = p at hp hlo hhi
  have hS : Nat.pow 2 52 ≤ c * 2 ^ (52 - p) ∧ c * 2 ^ (52 - p) < Nat.pow 2 53 := by
    have h52 : 2 ^ p * 2 ^ (52 - p) = 2 ^ 52 := by rw [← Nat.pow_add]; congr 1; omega
    have h53 : 2 ^ (p + 1) * 2 ^ (52 - p) = 2 ^ 53 := by rw [← Nat.pow_add]; congr 1; omega
    have hpos : 0 < 2 ^ (52 - p) := Nat.pow_pos (by decide)
    simp only [Nat.pow_eq]
    constructor
    · rw [← h52]; exact Nat.mul_le_mul_right _ hlo
    · rw [← h53]; exact Nat.mul_lt_mul_of_pos_right hhi hpos
  have hmag : (Nat.pow 2 52 + (c * 2 ^ (52 - p) - Nat.pow 2 52)) * Nat.pow 2 (s - 51 + p - 1) =
      c * Nat.pow 2 s := by
    rw [Nat.add_sub_cancel' hS.1, Nat.mul_assoc, Nat.pow_eq, Nat.pow_eq, ← Nat.pow_add]
    congr 2
    omega
  have hf : c * 2 ^ (52 - p) - Nat.pow 2 52 < Nat.pow 2 52 := by
    have h53 : Nat.pow 2 53 = 2 * Nat.pow 2 52 := Nat.mul_comm _ _
    omega
  have hx : (ofFields false (s - 51 + p) (c * 2 ^ (52 - p) - Nat.pow 2 52)).exponentField < 2047 := by
    rw [(fields_ofFields (by omega) hf).2.1]
    omega
  have hround := ofRatio_magnitude hx Nat.one_pos neg
  rw [magnitude_ofFields (by omega) (by omega) hf, hmag, Nat.mul_one,
    (fields_ofFields (by omega) hf).2.1, (fields_ofFields (by omega) hf).2.2] at hround
  rw [hround, shape_ofFields (by omega) (by omega) hf, hmag]

/-- A ratio over one of `c · 2^s + r` units, `c` a significand in `[2^52, 2^53)` and `r`
below `2^s`, rounds on the scale `2^s`: to `c`, or up to `c + 1` past the midpoint or at
it when `c` is odd. -/
theorem shape_ofRatio_near {c s r : Nat} (hlo : Nat.pow 2 52 ≤ c) (hhi : c < Nat.pow 2 53)
    (hr : r < Nat.pow 2 s) (hs : 1 ≤ s) (hs' : s ≤ 2044) (neg : Bool) :
    (ofRatio neg (c * Nat.pow 2 s + r) 1).shape =
      .finite neg ((if Nat.pow 2 s < 2 * r || (2 * r = Nat.pow 2 s && c % 2 = 1) then c + 1
        else c) * Nat.pow 2 s) := by
  have hq : 0 < Nat.pow 2 s := Nat.pow_pos (by decide)
  have h53 : Nat.pow 2 53 = 2 * Nat.pow 2 52 := Nat.mul_comm _ _
  -- the whole part has its top bit at `52 + s`, so the quantum is `2^s`
  have hlog : Nat.log2 (c * Nat.pow 2 s + r) = 52 + s := by
    have hupper : c * Nat.pow 2 s + r < Nat.pow 2 53 * Nat.pow 2 s := by
      have : (c + 1) * Nat.pow 2 s ≤ Nat.pow 2 53 * Nat.pow 2 s := Nat.mul_le_mul_right _ hhi
      rw [Nat.succ_mul] at this
      omega
    have hc0 : 0 < c * Nat.pow 2 s := Nat.mul_pos (lt_of_lt_of_le (Nat.pow_pos (by decide)) hlo) hq
    rw [Nat.log2_eq_iff (by omega)]
    simp only [Nat.pow_eq] at *
    rw [Nat.pow_add, show 52 + s + 1 = 53 + s by omega, Nat.pow_add]
    exact ⟨le_trans (Nat.mul_le_mul_right _ hlo) (Nat.le_add_right _ _), hupper⟩
  have hbig : ¬ c * Nat.pow 2 s + r < Nat.pow 2 53 := by
    have : Nat.pow 2 53 ≤ c * Nat.pow 2 s := by
      rw [h53, Nat.mul_comm 2]
      calc Nat.pow 2 52 * 2 ≤ c * 2 := Nat.mul_le_mul_right _ hlo
        _ ≤ c * Nat.pow 2 s := Nat.mul_le_mul_left _ (by simp only [Nat.pow_eq]; exact Nat.le_self_pow (by omega) 2)
    omega
  have hdiv : (c * Nat.pow 2 s + r) / Nat.pow 2 s = c := by
    rw [Nat.add_comm, Nat.add_mul_div_right _ _ hq, Nat.div_eq_of_lt hr, Nat.zero_add]
  have hmod : (c * Nat.pow 2 s + r) % Nat.pow 2 s = r := by
    rw [Nat.add_comm, Nat.add_mul_mod_self_right, Nat.mod_eq_of_lt hr]
  simp only [ofRatio, one_ne_zero, if_false, Nat.div_one, Nat.one_mul, if_neg hbig, hlog,
    Nat.add_sub_cancel_left, hdiv, hmod]
  generalize (decide (Nat.pow 2 s < 2 * r) || decide (2 * r = Nat.pow 2 s) && decide (c % 2 = 1)) = up
  cases up with
  | false =>
    simp only [Bool.false_eq_true, if_false, Nat.ne_of_lt hhi, if_neg (by omega : ¬ 2045 < s),
      if_neg (Nat.not_lt.2 hlo)]
    rw [shape_ofFields (by omega) (by omega) (by omega), Nat.add_sub_cancel' hlo, Nat.add_sub_cancel]
  | true =>
    simp only [if_true]
    by_cases hc : c + 1 = Nat.pow 2 53
    · simp only [hc, if_true, if_neg (by omega : ¬ 2045 < s + 1), if_neg (Nat.lt_irrefl _),
        Nat.sub_self]
      rw [shape_ofFields (by omega) (by omega) (Nat.pow_pos (by decide)), Nat.add_zero,
        show s + 1 + 1 - 1 = s + 1 by omega, h53]
      show Shape.finite neg (Nat.pow 2 52 * (Nat.pow 2 s * 2)) = _
      ac_rfl
    · simp only [hc, if_false, if_neg (by omega : ¬ 2045 < s), if_neg (by omega : ¬ c + 1 < Nat.pow 2 52)]
      rw [shape_ofFields (by omega) (by omega) (by omega), Nat.add_sub_cancel' (by omega),
        Nat.add_sub_cancel]

theorem shape_ofInt_of_le {n : Int} (h : n.natAbs ≤ Nat.pow 2 53) :
    (ofInt n).shape = .finite (decide (n < 0)) (n.natAbs * unitScale) := by
  -- the unit is `2^N`, with the exponent held in a variable
  obtain ⟨N, hN, hU⟩ : ∃ N, N = 1074 ∧ unitScale = Nat.pow 2 N := ⟨_, rfl, unitScale_eq_pow⟩
  rw [ofInt_eq, hU]
  rcases Nat.lt_or_ge n.natAbs (Nat.pow 2 53) with hlt | hge
  · exact shape_ofRatio_dyadic hlt (by omega) (by omega) _
  · have h53 : n.natAbs * Nat.pow 2 N = Nat.pow 2 52 * Nat.pow 2 (N + 1) := by
      rw [show n.natAbs = Nat.pow 2 53 by omega, Nat.pow_eq, Nat.pow_eq, Nat.pow_eq, Nat.pow_eq,
        ← Nat.pow_add, ← Nat.pow_add, show 52 + (N + 1) = 53 + N by omega]
    rw [h53]
    exact shape_ofRatio_dyadic (by decide) (by omega) (by omega) _

theorem shape_ofInt_natCast {a : Nat} (h : a ≤ Nat.pow 2 53) :
    (ofInt a).shape = .finite false (a * unitScale) := by
  have hshape := shape_ofInt_of_le (n := a) (by rwa [Int.natAbs_natCast])
  rwa [Int.natAbs_natCast, decide_eq_false (by omega)] at hshape

/-! ## Reading integers off doubles -/

theorem floorInt_of_shape {x : Binary64} {m : Nat} (h : x.shape = .finite false m) :
    x.floorInt = .ok (m / unitScale : Nat) := by
  simp only [floorInt, floor?, h, Int.natCast_div]

theorem truncInt_of_shape {x : Binary64} {s : Bool} {m : Nat} (h : x.shape = .finite s m) :
    x.truncInt = .ok (signed s (m / unitScale)) := by
  rw [truncInt, trunc?, h]

theorem truncInt_ofInt {n : Int} (h : n.natAbs ≤ Nat.pow 2 53) : (ofInt n).truncInt = .ok n := by
  rw [truncInt_of_shape (shape_ofInt_of_le h), Nat.mul_div_cancel _ unitScale_pos]
  congr 1
  unfold signed
  split <;> rename_i hs <;> simp only [decide_eq_true_eq] at hs <;> omega

theorem ofInt?_of_finite {n : Int} (h : (ofInt n).isInfinite = false) : ofInt? n = .ok (ofInt n) := by
  rw [ofInt?]
  simp only [h, Bool.false_eq_true, if_false]

theorem isInfinite_of_shape {x : Binary64} {s : Bool} {m : Nat} (h : x.shape = .finite s m) :
    x.isInfinite = false := by
  rw [isInfinite, h]

end Binary64

open Binary64

namespace Builtin

theorem half_shape : half.shape = .finite false (Nat.pow 2 1073) := by
  decide +kernel

theorem add_half_of_shape {x : Binary64} {m : Nat} (h : x.shape = .finite false m) :
    x.add half = ofRatio false (m + Nat.pow 2 1073) 1 := by
  have hpos := half_unit_pos
  unfold add
  rw [h, half_shape]
  simp only [signed, Bool.false_eq_true, if_false]
  rw [← Int.natCast_add, if_neg (by omega), ofUnits, Int.natAbs_natCast,
    decide_eq_false (by omega)]

/-- A positive double whose last bit is worth at least two absorbs a half: the sum lies
inside its rounding interval and rounds back to it. -/
theorem add_half_of_coarse {x : Binary64} (hx : x.exponentField < 2047) (hsign : x.signBit = false)
    (hs : 1075 ≤ x.scale) : x.add half = x := by
  have hbit : 2 * Nat.pow 2 1073 < Nat.pow 2 x.scale := by
    rw [← unitScale_eq_two_mul]
    exact unitScale_lt_two_pow (by omega)
  have hhalf := half_unit_pos
  have hrounds : x.Rounds (x.magnitude + Nat.pow 2 1073) 1 := by
    unfold Rounds
    split <;> constructor <;> omega
  have hshape := shape_of_lt hx
  rw [hsign] at hshape
  rw [add_half_of_shape hshape, ofRatio_of_rounds hx Nat.one_pos hrounds, ← hsign, ofFields_fields]

/-- A positive double whose last bit is worth at least one is an integer: the double of its
value is itself. -/
theorem ofInt_magnitude_div {x : Binary64} (hx : x.exponentField < 2047) (hsign : x.signBit = false)
    (hs : 1074 ≤ x.scale) : ofInt ((x.magnitude / unitScale : Nat) : Int) = x := by
  have hdvd : unitScale ∣ x.magnitude := Dvd.dvd.mul_left (unitScale_dvd_two_pow hs) _
  rw [ofInt_eq, Int.natAbs_natCast, decide_eq_false (Int.not_lt.2 (Int.natCast_nonneg _)),
    Nat.div_mul_cancel hdvd, ← Nat.mul_one x.magnitude, ofRatio_magnitude hx Nat.one_pos, ← hsign,
    ofFields_fields]

theorem apply_round (frame : Nat) (v : Value) : apply frame .round [v] = roundTo frame v (.int 0) :=
  rfl

theorem ok_bind {ε α β : Type} (a : α) (f : α → Except ε β) : (Except.ok a >>= f) = f a := rfl

theorem mapError_int_ok (x : Int) :
    (Value.int <$> (Except.ok x : Except ArithError Int)).mapError EvalError.arith = .ok (.int x) :=
  rfl

theorem trueDiv_int_one {V : Int} (h : (ofInt V).isInfinite = false) :
    (Num.int V).trueDiv (.int 1) = .ok (.float (ofInt V)) := by
  rw [Num.trueDiv, if_neg Int.one_ne_zero]
  simp only [ofIntRatio_one, h, Bool.false_eq_true, if_false]

/-- `round` of an integer, step by step: the double of its magnitude, plus a half, floored,
divided by one, given the sign of the double of the integer and truncated. -/
theorem roundTo_int (frame : Nat) (n : Int) :
    roundTo frame (.int n) (.int 0) =
      (do
        let D ← ofInt? n.natAbs
        let V ← (D.add half).floorInt
        let q ← (Num.int V).trueDiv (.int 1)
        let qd ← q.toDouble
        let vd ← ofInt? n
        Value.int <$> (qd.copySign vd).truncInt).mapError .arith := by
  have hnum : ∀ m : Int, number (frame + 1) .round (.int m) = .ok (.int m) := fun _ => rfl
  have hten : tenPow (.int 0) = .ok (.int 1) := rfl
  have hmul : (Num.int n).abs.mul (.int 1) = .ok (.int n.natAbs) := by
    simp only [Num.abs, Num.mul, Num.combine, Int.mul_one]
  have hadd : ∀ (a : Int) (h : Binary64), (Num.int a).add (.float h) =
      (ofInt? a >>= fun x => .ok (.float (x.add h))) := fun _ _ => rfl
  unfold roundTo
  -- the kernel must not unfold `half`: keep it opaque while the steps are matched
  generalize half = h
  rw [hnum, ok_bind, hnum, ok_bind, hten, ok_bind, hmul, ok_bind, hadd]
  cases ofInt? (n.natAbs : Int) with
  | error err => rfl
  | ok D => rfl

/-- When the floor of the double of `|n|` plus a half is an integer `V` whose double is
finite, `round(n)` is `V` given the sign of the double of `n`. -/
theorem roundTo_int_of_floor (frame : Nat) (n : Int) {V : Int}
    (hD : (ofInt n.natAbs).isInfinite = false) (hV : ((ofInt n.natAbs).add half).floorInt = .ok V)
    (hq : (ofInt V).isInfinite = false) :
    roundTo frame (.int n) (.int 0) =
      (Value.int <$> ((ofInt V).copySign (ofInt n)).truncInt).mapError .arith := by
  have hn : ofInt? n = .ok (ofInt n) := ofInt?_of_finite (by rw [isInfinite_ofInt_natAbs, hD])
  rw [roundTo_int, ofInt?_of_finite hD, ok_bind, hV, ok_bind, trueDiv_int_one hq, ok_bind,
    Num.toDouble, ok_bind, hn, ok_bind]

/-- Where the double of the floor is the double of `|n|` again, `round(n)` is
`int(float(n))`. -/
theorem roundTo_int_of_fixed (frame : Nat) (n : Int) {V : Int}
    (hD : (ofInt n.natAbs).isInfinite = false) (hV : ((ofInt n.natAbs).add half).floorInt = .ok V)
    (hfix : ofInt V = ofInt n.natAbs) :
    roundTo frame (.int n) (.int 0) =
      (Value.int <$> ((ofInt? n).bind truncInt)).mapError .arith := by
  have hn : ofInt? n = .ok (ofInt n) := ofInt?_of_finite (by rw [isInfinite_ofInt_natAbs, hD])
  rw [roundTo_int_of_floor frame n hD hV (by rw [hfix]; exact hD), hfix, copySign_ofInt_natAbs, hn]
  rfl

theorem roundTo_int_small (frame : Nat) {n : Int} (h : n.natAbs < Nat.pow 2 52) :
    roundTo frame (.int n) (.int 0) = .ok (.int n) := by
  have h53 : Nat.pow 2 53 = 2 * Nat.pow 2 52 := Nat.mul_comm _ _
  have hD := shape_ofInt_natCast (a := n.natAbs) (by omega)
  -- the half is `2^K` units and the unit `2 · 2^K`, with `K = 1073` held in a variable
  obtain ⟨K, hK, hH⟩ : ∃ K, K = 1073 ∧ Nat.pow 2 1073 = Nat.pow 2 K := ⟨_, rfl, rfl⟩
  have hU : unitScale = 2 * Nat.pow 2 K := hH ▸ unitScale_eq_two_mul
  -- `|n| · 2^1074 + 2^1073` is `(2|n| + 1) · 2^1073`, with `2|n| + 1` below `2^53`
  have hsum : n.natAbs * unitScale + Nat.pow 2 K = (2 * n.natAbs + 1) * Nat.pow 2 K := by
    rw [hU]
    ring
  have hS := shape_ofRatio_dyadic (c := 2 * n.natAbs + 1) (s := K) (by omega) (by omega)
    (by omega) false
  have hdiv : (2 * n.natAbs + 1) * Nat.pow 2 K / unitScale = n.natAbs := by
    have hpos : 0 < Nat.pow 2 K := Nat.pow_pos (by decide)
    rw [hU, Nat.mul_comm 2 (Nat.pow 2 K), ← Nat.div_div_eq_div_mul, Nat.mul_div_cancel _ hpos]
    omega
  have hfloor : ((ofInt n.natAbs).add half).floorInt = .ok (n.natAbs : Int) := by
    rw [add_half_of_shape hD, hH, hsum, floorInt_of_shape hS, hdiv]
  rw [roundTo_int_of_fixed frame n (isInfinite_of_shape hD) hfloor rfl,
    ofInt?_of_finite (isInfinite_of_shape (shape_ofInt_of_le (by omega))), Except.bind,
    truncInt_ofInt (by omega)]
  rfl

/-- From `2^52` to `2^53` the doubles are the integers: `|n| + 1/2` is a tie between `|n|`
and `|n| + 1` and goes to the even one, so that an odd `n` moves one step away from zero. -/
theorem roundTo_int_tie (frame : Nat) {n : Int} (hlo : Nat.pow 2 52 ≤ n.natAbs)
    (hhi : n.natAbs < Nat.pow 2 53) :
    roundTo frame (.int n) (.int 0) = .ok (.int (if n % 2 = 0 then n else n + n.sign)) := by
  have hD := shape_ofInt_natCast (a := n.natAbs) (by omega)
  obtain ⟨K, hK, hH⟩ : ∃ K, K = 1073 ∧ Nat.pow 2 1073 = Nat.pow 2 K := ⟨_, rfl, rfl⟩
  have h2 : 2 * Nat.pow 2 K = Nat.pow 2 (K + 1) := by
    rw [Nat.pow_eq, Nat.pow_eq, Nat.pow_succ, Nat.mul_comm]
  have hU : unitScale = Nat.pow 2 (K + 1) := h2 ▸ hH ▸ unitScale_eq_two_mul
  -- the sum is a tie on the scale of one: it rounds to the even one of `|n|` and `|n| + 1`
  have hhalf : Nat.pow 2 K < Nat.pow 2 (K + 1) := by
    have hpos : 0 < Nat.pow 2 K := Nat.pow_pos (by decide)
    omega
  have hS := shape_ofRatio_near (s := K + 1) hlo hhi hhalf (by omega) (by omega) false
  have htie : (if Nat.pow 2 (K + 1) < 2 * Nat.pow 2 K ||
      (2 * Nat.pow 2 K = Nat.pow 2 (K + 1) && n.natAbs % 2 = 1) then n.natAbs + 1
      else n.natAbs) = n.natAbs + n.natAbs % 2 := by
    rw [h2]
    simp only [Nat.lt_irrefl, decide_false, Bool.false_or, decide_true, Bool.true_and,
      decide_eq_true_eq]
    split <;> omega
  rw [htie] at hS
  have hfloor : ((ofInt n.natAbs).add half).floorInt = .ok (n.natAbs + n.natAbs % 2 : Nat) := by
    have hpos : 0 < Nat.pow 2 (K + 1) := Nat.pow_pos (by decide)
    rw [add_half_of_shape hD, hH, hU, floorInt_of_shape hS, hU, Nat.mul_div_cancel _ hpos]
  have hq := shape_ofInt_natCast (a := n.natAbs + n.natAbs % 2) (by omega)
  have hn := shape_ofInt_of_le (n := n) (by omega)
  rw [roundTo_int_of_floor frame n (isInfinite_of_shape hD) hfloor (isInfinite_of_shape hq)]
  by_cases hneg : n < 0
  · rw [decide_eq_true hneg] at hn
    rw [copySign_of_signBit_ne (by rw [signBit_of_shape hq, signBit_of_shape hn]; decide),
      truncInt_of_shape (shape_neg_of_finite hq), Nat.mul_div_cancel _ unitScale_pos,
      Int.sign_eq_neg_one_of_neg hneg]
    rw [mapError_int_ok]
    simp only [signed, Bool.not_false, if_true, Except.ok.injEq, Value.int.injEq]
    split <;> omega
  · rw [decide_eq_false hneg] at hn
    rw [copySign_of_signBit_eq (by rw [signBit_of_shape hq, signBit_of_shape hn]),
      truncInt_of_shape hq, Nat.mul_div_cancel _ unitScale_pos, mapError_int_ok]
    simp only [signed, Bool.false_eq_true, if_false, Except.ok.injEq, Value.int.injEq]
    split
    · omega
    · rw [Int.sign_eq_one_of_pos (by omega)]
      omega

/-- From `2^53` up the half is lost: the double `D` of `|n|` has a last bit of at least
`2^2`, so `D + 1/2` rounds back to `D`, which is an integer, and `round(n)` is the
integer value of the double of `n`; where that double overflows, both fail alike. -/
theorem roundTo_int_large (frame : Nat) {n : Int} (h : Nat.pow 2 53 ≤ n.natAbs) :
    roundTo frame (.int n) (.int 0) = (Value.int <$> ((ofInt? n).bind truncInt)).mapError .arith := by
  have ha : 0 < n.natAbs := lt_of_lt_of_le (Nat.pow_pos (by decide)) h
  have hnum : Nat.pow 2 53 ≤ n.natAbs * unitScale := two_pow_53_le_mul_unitScale ha
  have hpos : ofInt (n.natAbs : Int) = ofRatio false (n.natAbs * unitScale) 1 := by
    rw [ofInt_eq, Int.natAbs_natCast, decide_eq_false (by omega)]
  rcases ofRatio_one_large hnum with hinf | ⟨e, f, hle, he, hf, hfields⟩
  · have hover : ∀ neg, (infinity neg).isInfinite = true := by decide
    have hD : ofInt? (n.natAbs : Int) = .error .intTooLarge := by
      rw [ofInt?, hpos, hinf, hover, if_pos rfl]
    have hn : ofInt? n = .error .intTooLarge := by
      rw [ofInt?, ofInt_eq, hinf, hover, if_pos rfl]
    rw [roundTo_int, hD, hn]
    rfl
  · -- the last bit of the double of `|n|` is worth at least two: its top bit is past `2^1126`
    have hlog : 1127 ≤ Nat.log2 (n.natAbs * unitScale) := le_log2_mul_unitScale h
    have hD : ofInt (n.natAbs : Int) = ofFields false e f := by rw [hpos, hfields]
    obtain ⟨hsign, hexp, -⟩ := @fields_ofFields false e f (by omega) hf
    have hx : (ofFields false e f).exponentField < 2047 := by rw [hexp]; exact he
    have hscale : 1075 ≤ (ofFields false e f).scale := by
      rw [scale, hexp, if_neg (by omega)]
      omega
    have hshape := shape_of_lt hx
    rw [hsign] at hshape
    have hfloor : ((ofInt n.natAbs).add half).floorInt =
        .ok (((ofFields false e f).magnitude / unitScale : Nat) : Int) := by
      rw [hD, add_half_of_coarse hx hsign hscale, floorInt_of_shape hshape]
    exact roundTo_int_of_fixed frame n (by rw [hD]; exact isInfinite_of_shape hshape) hfloor
      (by rw [ofInt_magnitude_div hx hsign (by omega), hD])

end Builtin

/-- **Rounding an integer.** `round(n)` evaluates to `n` below `2^52`; from `2^52` to `2^53`
to `n` when it is even and to `n + sign n` when it is odd; and from `2^53` up to the integer
value of the double nearest `n`, or the error of a double out of range. -/
theorem round_of_integer {o : Options} {ctx : Value} {d : Nat} {e : Expr} {n : Int}
    (he : e.eval o ctx (d + 2) = .ok (.int n)) :
    (Expr.call .round [e]).eval o ctx d =
      if n.natAbs < 2 ^ 52 then .ok (.int n)
      else if n.natAbs < 2 ^ 53 then .ok (.int (if n % 2 = 0 then n else n + n.sign))
      else (Value.int <$> ((ofInt? n).bind truncInt)).mapError .arith := by
  rw [Expr.eval_call_one, he, Except.bind, Builtin.apply_round]
  simp only [← Nat.pow_eq]
  by_cases h52 : n.natAbs < Nat.pow 2 52
  · rw [if_pos h52]
    exact Builtin.roundTo_int_small _ h52
  by_cases h53 : n.natAbs < Nat.pow 2 53
  · rw [if_neg h52, if_pos h53]
    exact Builtin.roundTo_int_tie _ (Nat.not_lt.1 h52) h53
  · rw [if_neg h52, if_neg h53]
    exact Builtin.roundTo_int_large _ (Nat.not_lt.1 h53)

/-- `-(2^52 + 1)` is odd: it rounds one step further from zero. -/
theorem round_of_integer_negative_tie :
    (Expr.call .round [.lit (.int (-4503599627370497))]).eval Options.standard .null 0 =
      .ok (.int (-4503599627370498)) := by
  rw [@round_of_integer Options.standard .null 0 (.lit (.int (-4503599627370497))) _ rfl,
    if_neg (by decide), if_pos (by decide), if_neg (by decide)]
  rfl

/-- `2^52 + 1` is a double, yet `round` moves it to `2^52 + 2`. -/
theorem round_two_pow_52_succ :
    (Expr.call .round [.lit (.int 4503599627370497)]).eval Options.standard .null 0 =
      .ok (.int 4503599627370498) := by
  rw [Expr.eval_call_one]
  rw [show (Expr.lit (.int 4503599627370497)).eval Options.standard .null (0 + 2) =
    .ok (.int 4503599627370497) from rfl, Except.bind, Builtin.apply_round, Builtin.roundTo_int_tie 1 (by decide) (by decide), if_neg (by decide)]
  rfl

end Templating
