import Mathlib.Tactic.Linarith
import Mathlib.Tactic.Ring
import Templating.Number.Arith
import Templating.Number.Shortest
/-!
# The rounding interval of a double

A finite double `x` has a significand `S` and the exponent `k` of its last bit, so that its
magnitude is `S · 2^k` units of `2^-1074`. Its rounding interval holds the reals within
half a spacing of it on either side, the ends included when `S` is even; the spacing below
is half the spacing above at a power of two with a normal neighbour below (`gapBelow`).

`ofRatio`, which rounds a ratio of units to the nearest double with ties to even, gives
`x` back from every ratio in that interval (`ofRatio_of_rounds`). A ratio rounds on the
scale of its whole part's top 53 bits (`ratioScale`): that is `k` itself, or, for a
ratio just below a power of two, one bit finer, where it rounds up to `2^53` and carries.
The interval is one of ratios (`rounds_congr`), and a double's own magnitude lies in it,
so that multiplying by `-1` only flips the sign (`Num.mul_neg_one`).

Main statements:

    Near S q num → round half to even (num / q) = S                    (round_eq_of_near)
    x.Rounds num den → ofRatio neg num den = ofFields neg e f         (ofRatio_of_rounds)
    num · den' = num' · den → (x.Rounds num den ↔ x.Rounds num' den')       (rounds_congr)
-/
namespace Templating

namespace Binary64

/-! ## The significand and the interval -/

/-- The significand of a finite double: its fraction field, with the hidden bit of a
normal double. -/
def significand (x : Binary64) : Nat :=
  if x.exponentField = 0 then x.fractionField else Nat.pow 2 52 + x.fractionField

/-- The exponent of the least significant bit of a finite double, over `2^-1074`. -/
def scale (x : Binary64) : Nat := if x.exponentField = 0 then 0 else x.exponentField - 1

/-- The magnitude of a finite double in units of `2^-1074`. -/
def magnitude (x : Binary64) : Nat := x.significand * Nat.pow 2 x.scale

/-- The spacing of the doubles just below a finite double: half the spacing above at a
power of two with a normal neighbour below, the spacing above otherwise. -/
def gapBelow (x : Binary64) : Nat :=
  if x.fractionField = 0 ∧ 1 < x.exponentField then Nat.pow 2 (x.scale - 1)
  else Nat.pow 2 x.scale

/-- `num / den` units lie in the rounding interval of a finite double: within half a
spacing of it on either side, the ends included when its significand is even. -/
def Rounds (x : Binary64) (num den : Nat) : Prop :=
  if x.significand % 2 = 0 then
    2 * x.magnitude * den ≤ 2 * num + x.gapBelow * den ∧
      2 * num ≤ 2 * x.magnitude * den + Nat.pow 2 x.scale * den
  else
    2 * x.magnitude * den < 2 * num + x.gapBelow * den ∧
      2 * num < 2 * x.magnitude * den + Nat.pow 2 x.scale * den

/-! ## Rounding half to even -/

/-- `num / q` lies within half of `q` of `S`, the ends included when `S` is even. -/
def Near (S q num : Nat) : Prop :=
  if S % 2 = 0 then 2 * S * q ≤ 2 * num + q ∧ 2 * num ≤ 2 * S * q + q
  else 2 * S * q < 2 * num + q ∧ 2 * num < 2 * S * q + q

/-- Rounding half to even, as `ofRatio` rounds: a quotient near `S` rounds to `S`. -/
theorem round_eq_of_near {S q num : Nat} (hq : 0 < q) (h : Near S q num) :
    (if q < 2 * (num % q) || (2 * (num % q) = q && num / q % 2 = 1) then num / q + 1
      else num / q) = S := by
  have hdiv := Nat.div_add_mod num q
  have hmod := Nat.mod_lt num hq
  have hlo : 2 * S * q ≤ 2 * num + q := by unfold Near at h; split at h <;> omega
  have hhi : 2 * num ≤ 2 * S * q + q := by unfold Near at h; split at h <;> omega
  -- the quotient is `S` or `S - 1`
  have hle : num / q ≤ S := by
    rw [← Nat.lt_succ_iff, Nat.div_lt_iff_lt_mul hq]
    linarith
  have hge : S ≤ num / q + 1 := by
    by_contra hc
    have : (num / q + 2) * q ≤ S * q := Nat.mul_le_mul_right q (by omega)
    linarith
  rcases Nat.lt_or_ge (num / q) S with hlt | hS
  · have hm : S * q = num / q * q + q := by
      rw [show S = num / q + 1 by omega, Nat.succ_mul]
    have hr : q ≤ 2 * (num % q) := by linarith
    have hup : q < 2 * (num % q) ∨ (2 * (num % q) = q ∧ num / q % 2 = 1) := by
      rcases Nat.lt_or_ge q (2 * (num % q)) with hgt | hle'
      · exact .inl hgt
      · refine .inr ⟨by omega, ?_⟩
        unfold Near at h
        split at h
        · omega
        · linarith
    rw [if_pos (by simpa using hup)]
    omega
  · have hm : num / q = S := by omega
    have hr : 2 * (num % q) ≤ q := by
      rw [hm] at hdiv
      linarith
    have hdown : ¬ (q < 2 * (num % q) ∨ (2 * (num % q) = q ∧ num / q % 2 = 1)) := by
      rintro (hgt | ⟨heq, hodd⟩)
      · omega
      · unfold Near at h
        rw [hm] at hodd hdiv
        split at h
        · omega
        · linarith
    rw [if_neg (by simpa using hdown)]
    exact hm

/-! ## The scale of a ratio -/

theorem fractionField_lt (x : Binary64) : x.fractionField < Nat.pow 2 52 :=
  Nat.mod_lt _ (by decide)

theorem significand_lt (x : Binary64) : x.significand < Nat.pow 2 53 := by
  have := x.fractionField_lt
  unfold significand
  split <;> simp only [Nat.pow_eq] at * <;> omega

theorem gapBelow_le (x : Binary64) : x.gapBelow ≤ Nat.pow 2 x.scale := by
  unfold gapBelow
  split
  · exact Nat.pow_le_pow_right (by decide) (Nat.sub_le _ _)
  · exact le_rfl

theorem near_of_rounds {x : Binary64} {num den : Nat} (h : x.Rounds num den) :
    Near x.significand (den * Nat.pow 2 x.scale) num := by
  have hgap : x.gapBelow * den ≤ Nat.pow 2 x.scale * den := Nat.mul_le_mul_right den x.gapBelow_le
  have hmag : 2 * x.significand * (den * Nat.pow 2 x.scale) = 2 * x.magnitude * den := by
    rw [magnitude]
    ring
  unfold Rounds at h
  unfold Near
  rw [hmag, Nat.mul_comm den]
  split_ifs at h ⊢ <;> omega

/-- The exponent of the last bit `ofRatio` rounds a ratio of units to: zero below `2^53`
units, and above the exponent that leaves 53 bits of the whole part. -/
def ratioScale (num den : Nat) : Nat :=
  if num / den < Nat.pow 2 53 then 0 else Nat.log2 (num / den) - 52

theorem ratioScale_eq {num den k : Nat} (hlo : 2 ^ 52 * 2 ^ k ≤ num / den)
    (hhi : num / den < 2 ^ 53 * 2 ^ k) : ratioScale num den = k := by
  unfold ratioScale
  rcases Nat.eq_zero_or_pos k with rfl | hk
  · rw [if_pos (by simpa using hhi)]
  · have hbig : 2 ^ 53 ≤ 2 ^ 52 * 2 ^ k := by
      calc 2 ^ 53 = 2 ^ 52 * 2 ^ 1 := by norm_num
        _ ≤ 2 ^ 52 * 2 ^ k := Nat.mul_le_mul_left _ (Nat.pow_le_pow_right (by decide) hk)
    have hW0 : num / den ≠ 0 := by
      have : 0 < 2 ^ 52 * 2 ^ k := by positivity
      omega
    have hlog : Nat.log2 (num / den) = 52 + k := by
      rw [Nat.log2_eq_iff hW0, show 52 + k + 1 = 53 + k by omega, Nat.pow_add, Nat.pow_add]
      exact ⟨hlo, hhi⟩
    rw [if_neg (by simp only [Nat.pow_eq]; omega), hlog]
    omega

theorem lt_of_rounds {x : Binary64} {num den : Nat} (hden : 0 < den) (h : x.Rounds num den) :
    num < Nat.pow 2 53 * (Nat.pow 2 x.scale * den) := by
  have hsig : x.significand + 1 ≤ Nat.pow 2 53 := x.significand_lt
  have hhi : 2 * num ≤ 2 * x.magnitude * den + Nat.pow 2 x.scale * den := by
    unfold Rounds at h
    split at h <;> omega
  have hmag : 2 * x.magnitude * den = 2 * x.significand * (Nat.pow 2 x.scale * den) := by
    rw [magnitude]
    ring
  have hT : 0 < Nat.pow 2 x.scale * den := Nat.mul_pos (Nat.pow_pos (by decide)) hden
  have hbound := Nat.mul_le_mul_right (Nat.pow 2 x.scale * den) hsig
  rw [hmag] at hhi
  linarith

/-- The scale a ratio in the rounding interval is rounded on: the double's own, or one
below it at a power of two, where the ratio lies just under the double. -/
theorem scale_of_rounds {x : Binary64} {num den : Nat} (hden : 0 < den) (h : x.Rounds num den) :
    (ratioScale num den = x.scale ∧ Near x.significand (den * Nat.pow 2 x.scale) num) ∨
    (x.fractionField = 0 ∧ 1 < x.exponentField ∧ ratioScale num den + 1 = x.scale ∧
      Near (Nat.pow 2 53) (den * Nat.pow 2 (ratioScale num den)) num) := by
  have hnear := near_of_rounds h
  have hup := lt_of_rounds hden h
  by_cases he : x.exponentField ≤ 1
  · have hk : x.scale = 0 := by unfold scale; split <;> omega
    refine .inl ⟨?_, hnear⟩
    rw [hk] at hup ⊢
    unfold ratioScale
    rw [if_pos ((Nat.div_lt_iff_lt_mul hden).2 (by simpa using hup))]
  obtain ⟨j, hj⟩ : ∃ j, x.scale = j + 1 := ⟨x.exponentField - 2, by unfold scale; split <;> omega⟩
  have hP : 0 < 2 ^ j * den := Nat.mul_pos (Nat.pow_pos (by decide)) hden
  have hpow : Nat.pow 2 x.scale = 2 * 2 ^ j := by rw [hj, Nat.pow_eq, Nat.pow_succ, Nat.mul_comm]
  rw [hpow] at hup
  have hW : num / den < 2 ^ 54 * 2 ^ j := by
    rw [Nat.div_lt_iff_lt_mul hden]
    linarith
  by_cases hw : 2 ^ 53 * 2 ^ j ≤ num / den
  · -- the whole part has the double's 53 bits: it is rounded on the double's scale
    have h52 : 2 ^ 52 * 2 ^ (j + 1) = 2 ^ 53 * 2 ^ j := by ring
    have h53 : 2 ^ 53 * 2 ^ (j + 1) = 2 ^ 54 * 2 ^ j := by ring
    refine .inl ⟨?_, hnear⟩
    rw [hj]
    exact ratioScale_eq (by omega) (by omega)
  · -- the whole part falls short of the double's 53 bits: the double is a power of two,
    have hlt : num < 2 ^ 53 * 2 ^ j * den := (Nat.div_lt_iff_lt_mul hden).1 (by omega)
    have hlo : 2 * x.magnitude * den ≤ 2 * num + x.gapBelow * den := by
      unfold Rounds at h
      split at h <;> omega
    have hmag : 2 * x.magnitude * den = 4 * x.significand * (2 ^ j * den) := by
      rw [magnitude, hpow]
      ring
    have hgap : x.gapBelow * den ≤ 2 * (2 ^ j * den) := by
      have := Nat.mul_le_mul_right den x.gapBelow_le
      rw [hpow] at this
      linarith
    have hf : x.fractionField = 0 := by
      by_contra hf
      have hsig : 2 ^ 52 + 1 ≤ x.significand := by
        unfold significand
        rw [if_neg (by omega)]
        simp only [Nat.pow_eq]
        omega
      have hbound := Nat.mul_le_mul_right (2 ^ j * den) hsig
      linarith
    have he1 : 1 < x.exponentField := by omega
    have hsig : x.significand = 2 ^ 52 := by
      unfold significand
      rw [if_neg (by omega), hf]
      rfl
    have hgapP : x.gapBelow = 2 ^ j := by
      unfold gapBelow
      rw [if_pos ⟨hf, he1⟩, hj]
      rfl
    rw [hmag, hsig, hgapP] at hlo
    have hW2 : 2 ^ 52 * 2 ^ j ≤ num / den := by
      rw [Nat.le_div_iff_mul_le hden]
      linarith
    have hscale : ratioScale num den = j := ratioScale_eq hW2 (by omega)
    refine .inr ⟨hf, he1, by omega, ?_⟩
    rw [hscale]
    unfold Near
    rw [if_pos (by decide)]
    simp only [Nat.pow_eq]
    constructor <;> linarith

/-! ## Reading a ratio back -/

theorem rebuild {x : Binary64} (hx : x.exponentField < 2047) (neg : Bool) :
    (if 2045 < x.scale then infinity neg
      else if x.significand < Nat.pow 2 52 then ofFields neg 0 x.significand
      else ofFields neg (x.scale + 1) (x.significand - Nat.pow 2 52)) =
      ofFields neg x.exponentField x.fractionField := by
  have hf := x.fractionField_lt
  rw [if_neg (by unfold scale; split <;> omega)]
  unfold significand scale
  by_cases he : x.exponentField = 0
  · rw [if_pos he, if_pos he, if_pos hf, he]
  · rw [if_neg he, if_neg he, if_neg (by omega), Nat.sub_add_cancel (by omega),
      Nat.add_sub_cancel_left]

theorem ofRatio_of_rounds {x : Binary64} {num den : Nat} (hx : x.exponentField < 2047)
    (hden : 0 < den) (h : x.Rounds num den) (neg : Bool) :
    ofRatio neg num den = ofFields neg x.exponentField x.fractionField := by
  unfold ofRatio
  rw [if_neg hden.ne']
  simp only []
  rw [show (if num / den < Nat.pow 2 53 then 0 else Nat.log2 (num / den) - 52) =
    ratioScale num den from rfl]
  have hq : ∀ K, 0 < den * Nat.pow 2 K := fun K => Nat.mul_pos hden (Nat.pow_pos (by decide))
  rcases scale_of_rounds hden h with ⟨hK, hnear⟩ | ⟨hf, he, hK, hnear⟩
  · have hsig : x.significand ≠ Nat.pow 2 53 := Nat.ne_of_lt x.significand_lt
    rw [hK, round_eq_of_near (hq _) hnear, if_neg hsig]
    exact rebuild hx neg
  · have hsig : x.significand = Nat.pow 2 52 := by
      unfold significand
      rw [if_neg (by omega), hf]
    rw [round_eq_of_near (hq _) hnear, if_pos rfl, hK,
      show (Nat.pow 2 52, x.scale) = (x.significand, x.scale) by rw [hsig]]
    exact rebuild hx neg

/-! ## Fields -/

theorem bits_eq_fields (x : Binary64) :
    x.bits.toNat = (if x.signBit then Nat.pow 2 63 else 0) + x.exponentField * Nat.pow 2 52 +
      x.fractionField := by
  have hlt := x.bits.toNat_lt
  unfold signBit exponentField fractionField
  simp only [Nat.pow_eq] at *
  split <;> simp_all <;> omega

theorem ofFields_fields (x : Binary64) :
    ofFields x.signBit x.exponentField x.fractionField = x := by
  unfold ofFields
  rw [← bits_eq_fields]
  simp

theorem fields_ofFields {neg : Bool} {e f : Nat} (he : e < 2048) (hf : f < Nat.pow 2 52) :
    (ofFields neg e f).signBit = neg ∧ (ofFields neg e f).exponentField = e ∧
      (ofFields neg e f).fractionField = f := by
  have hbits : (ofFields neg e f).bits.toNat =
      (if neg then Nat.pow 2 63 else 0) + e * Nat.pow 2 52 + f := by
    unfold ofFields
    simp only [UInt64.toNat_ofNat', Nat.pow_eq] at *
    split <;> omega
  unfold signBit exponentField fractionField
  rw [hbits]
  simp only [Nat.pow_eq] at *
  cases neg <;> simp <;> omega

theorem shape_of_lt {x : Binary64} (hx : x.exponentField < 2047) :
    x.shape = .finite x.signBit x.magnitude := by
  unfold shape magnitude significand scale
  rw [if_neg (by omega)]
  split <;> simp_all

/-! ## Exact ratios -/

theorem rounds_magnitude (x : Binary64) {den : Nat} (hden : 0 < den) :
    x.Rounds (x.magnitude * den) den := by
  have hgap : 0 < x.gapBelow * den := by
    refine Nat.mul_pos ?_ hden
    unfold gapBelow
    split <;> exact Nat.pow_pos (by decide)
  have hq : 0 < Nat.pow 2 x.scale * den := Nat.mul_pos (Nat.pow_pos (by decide)) hden
  unfold Rounds
  split <;> constructor <;> linarith

theorem rounds_mul_iff {x : Binary64} {num den c : Nat} (hc : 0 < c) :
    x.Rounds (num * c) (den * c) ↔ x.Rounds num den := by
  unfold Rounds
  have h1 : 2 * x.magnitude * (den * c) = 2 * x.magnitude * den * c := by ring
  have h2 : 2 * (num * c) + x.gapBelow * (den * c) = (2 * num + x.gapBelow * den) * c := by
    ring
  have h3 : 2 * x.magnitude * den * c + Nat.pow 2 x.scale * (den * c) =
      (2 * x.magnitude * den + Nat.pow 2 x.scale * den) * c := by ring
  have h4 : 2 * (num * c) = 2 * num * c := by ring
  rw [h1, h2, h3, h4]
  simp only [mul_le_mul_iff_of_pos_right hc, mul_lt_mul_iff_of_pos_right hc]

/-- Two ratios of the same value lie in the same rounding intervals. -/
theorem rounds_congr {x : Binary64} {num den num' den' : Nat} (hden : 0 < den) (hden' : 0 < den')
    (h : num * den' = num' * den) : x.Rounds num den ↔ x.Rounds num' den' := by
  rw [← rounds_mul_iff hden', h, Nat.mul_comm den den', rounds_mul_iff hden]

theorem ofRatio_magnitude {x : Binary64} (hx : x.exponentField < 2047) {den : Nat}
    (hden : 0 < den) (neg : Bool) :
    ofRatio neg (x.magnitude * den) den = ofFields neg x.exponentField x.fractionField :=
  ofRatio_of_rounds hx hden (rounds_magnitude x hden) neg

theorem unitScale_pos : 0 < unitScale := by
  decide +kernel

theorem ofInt_neg_one : ofInt (-1) = ofFields true 1023 0 := by
  decide +kernel

end Binary64

theorem Num.mul_neg_one {x : Binary64} (hx : x.exponentField < 2047) :
    Num.mul (.int (-1)) (.float x) =
      .ok (.float (Binary64.ofFields (!x.signBit) x.exponentField x.fractionField)) := by
  have hshape : (Binary64.ofFields true 1023 0).shape = .finite true Binary64.unitScale := by
    decide +kernel
  have hone : Binary64.ofInt? (-1) = .ok (Binary64.ofFields true 1023 0) := by
    have hinf : (Binary64.ofFields true 1023 0).isInfinite = false := by
      rw [Binary64.isInfinite, hshape]
    simp only [Binary64.ofInt?, Binary64.ofInt_neg_one, hinf]
    rfl
  have hmul : Binary64.mul (Binary64.ofFields true 1023 0) x =
      Binary64.ofFields (!x.signBit) x.exponentField x.fractionField := by
    unfold Binary64.mul
    rw [hshape, Binary64.shape_of_lt hx]
    show Binary64.ofRatio (true != x.signBit) (Binary64.unitScale * x.magnitude) _ = _
    rw [Nat.mul_comm, show (true != x.signBit) = !x.signBit by cases x.signBit <;> rfl]
    exact Binary64.ofRatio_magnitude hx Binary64.unitScale_pos _
  unfold Num.mul Num.combine
  simp only [Num.toDouble]
  rw [hone, ← hmul]
  rfl

end Templating
