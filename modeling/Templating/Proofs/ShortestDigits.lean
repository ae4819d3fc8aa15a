import Mathlib.Tactic.Linarith
import Mathlib.Tactic.Ring
import Templating.Proofs.RoundingInterval
/-!
# The shortest digits read back

`Binary64.shortest` tries one to seventeen significant digits, and for each count the
digits nearest the double's value that still lie in its rounding interval
(`Decimal.candidate`), the ends counting when the significand is even. Whatever it returns
reads back as the double: its value lies in the interval (`Binary64.rounds_shortest`), so
rounding it gives the double again (`Binary64.ofRatio_shortest`).

Two facts carry the proof. A candidate, when there is one, lies in the interval: its digits
are clamped between the interval's ends scaled to the candidate's exponent
(`Decimal.rounds_of_candidate`), and trimming trailing zeros keeps its value
(`Decimal.rounds_trimZeros`). And the candidate with seventeen digits always exists: the
decimal exponent is never above the magnitude's (`Decimal.powTenAtMost_decimalExponent`),
and sixteen decades below it the candidates' step is narrower than the interval
(`Decimal.candidate_isSome`).

A decimal is read as a ratio of units of `2^-1074` (`Decimal.num`, `Decimal.den`), as
reading a number builds it.

Main statements:

    exponentField < 2047 → 0 < magnitude →
      Rounds x (shortest x).num (shortest x).den                    (rounds_shortest)
    exponentField < 2047 → 0 < magnitude →
      ofRatio neg (shortest x).num (shortest x).den = ofFields neg e f  (ofRatio_shortest)
-/

namespace Templating

namespace Decimal

/-! ## The decimal exponent -/

/-- A power of ten below a power of two, from `10^31 ≤ 2^103`: `log10 2` exceeds
`31/103`, which is within `10^-4` of `0.30103`, and the one decade to spare covers the
difference up to `2^16000`. -/
theorem ten_pow_le_two_pow {a N : Nat} (h : 100000 * (a + 1) ≤ 30103 * N) (hN : N ≤ 16000) :
    Nat.pow 10 a ≤ Nat.pow 2 N := by
  have hexp : 103 * a ≤ 31 * N := by omega
  have key : (10 ^ a) ^ 31 ≤ (2 ^ N) ^ 31 :=
    calc (10 ^ a) ^ 31 = (10 ^ 31) ^ a := by rw [← Nat.pow_mul, ← Nat.pow_mul, Nat.mul_comm]
      _ ≤ (2 ^ 103) ^ a := Nat.pow_le_pow_left (by decide) a
      _ = 2 ^ (103 * a) := by rw [← Nat.pow_mul]
      _ ≤ 2 ^ (31 * N) := Nat.pow_le_pow_right (by decide) hexp
      _ = (2 ^ N) ^ 31 := by rw [← Nat.pow_mul, Nat.mul_comm]
  exact (Nat.pow_le_pow_iff_left (by decide)).1 key

/-- A power of two below a power of ten, from `2^93 ≤ 10^28`: `log10 2` is below `28/93`,
within `10^-4` of `0.30103`, and the one decade to spare covers the difference up to
`2^20000`. -/
theorem two_pow_le_ten_pow {M b : Nat} (h : 100000 + 30103 * M ≤ 100000 * b) (hM : M ≤ 20000) :
    Nat.pow 2 M ≤ Nat.pow 10 b := by
  have hexp : 28 * M ≤ 93 * b := by omega
  have key : (2 ^ M) ^ 93 ≤ (10 ^ b) ^ 93 :=
    calc (2 ^ M) ^ 93 = (2 ^ 93) ^ M := by rw [← Nat.pow_mul, ← Nat.pow_mul, Nat.mul_comm]
      _ ≤ (10 ^ 28) ^ M := Nat.pow_le_pow_left (by decide) M
      _ = 10 ^ (28 * M) := by rw [← Nat.pow_mul]
      _ ≤ 10 ^ (93 * b) := Nat.pow_le_pow_right (by decide) hexp
      _ = (10 ^ b) ^ 93 := by rw [← Nat.pow_mul, Nat.mul_comm]
  exact (Nat.pow_le_pow_iff_left (by decide)).1 key

/-- The estimate of the decimal exponent from the binary logarithm is at most one decade
too high: one decade below it is a power of ten up to the magnitude. -/
theorem powTenAtMost_estimate_pred {mag : Nat} (h0 : 0 < mag) (hL2 : Nat.log2 mag < 2098) :
    powTenAtMost mag (((Nat.log2 mag : Int) - 1074) * 30103 / 100000 - 1) = true := by
  have hL1 : 2 ^ Nat.log2 mag ≤ mag := Nat.log2_self_le (by omega)
  have e1 : ((Nat.log2 mag : Int) - 1074) * 30103 / 100000 * 100000 ≤
      ((Nat.log2 mag : Int) - 1074) * 30103 := Int.ediv_mul_le _ (by decide)
  generalize ((Nat.log2 mag : Int) - 1074) * 30103 / 100000 = est at e1 ⊢
  generalize Nat.log2 mag = L at hL1 hL2 e1
  unfold powTenAtMost Binary64.unitScale
  -- the unit's exponent, kept symbolic so that its power is never computed
  generalize hT : (1074 : Nat) = T
  split
  · -- a non-negative exponent: the power of ten lies below the magnitude's top bit
    obtain ⟨a, ha⟩ : ∃ a : Nat, est - 1 = a := ⟨(est - 1).toNat, by omega⟩
    have hN : T ≤ L := by omega
    have hpow : Nat.pow 10 a ≤ Nat.pow 2 (L - T) := ten_pow_le_two_pow (by omega) (by omega)
    have htop : Nat.pow 2 (L - T) * Nat.pow 2 T = 2 ^ L := by
      rw [Nat.pow_eq, Nat.pow_eq, ← Nat.pow_add, Nat.sub_add_cancel hN]
    simp only [ha, Int.toNat_natCast, decide_eq_true_eq]
    exact Nat.le_trans (Nat.mul_le_mul_right _ hpow) (htop ▸ hL1)
  · -- a negative exponent: the magnitude scaled up by that power of ten reaches one
    obtain ⟨b, hb⟩ : ∃ b : Nat, -(est - 1) = b := ⟨(-(est - 1)).toNat, by omega⟩
    simp only [hb, Int.toNat_natCast, decide_eq_true_eq]
    by_cases hN : T ≤ L
    · exact Nat.le_trans (Nat.pow_le_pow_right (by decide) hN)
        (Nat.le_trans hL1 (Nat.le_mul_of_pos_right _ (Nat.pow_pos (by decide))))
    · have hpow : Nat.pow 2 (T - L) ≤ Nat.pow 10 b := two_pow_le_ten_pow (by omega) (by omega)
      have hsplit : Nat.pow 2 T = 2 ^ L * Nat.pow 2 (T - L) := by
        rw [Nat.pow_eq, Nat.pow_eq, ← Nat.pow_add, Nat.add_sub_cancel' (by omega)]
      rw [hsplit]
      exact Nat.mul_le_mul hL1 hpow

/-- The decimal exponent of a magnitude is never too high: its power of ten is at most
the magnitude. -/
theorem powTenAtMost_decimalExponent {mag : Nat} (h0 : 0 < mag) (hlt : Nat.log2 mag < 2098) :
    powTenAtMost mag (decimalExponent mag) = true := by
  unfold decimalExponent
  dsimp only
  split
  · exact powTenAtMost_estimate_pred h0 hlt
  · rename_i hest
    split
    · assumption
    · simpa using hest

/-! ## Decimals as ratios -/

/-- The numerator of a decimal as a ratio of units of `2^-1074`, as reading a number
builds it. -/
def num (d : Decimal) : Nat :=
  if 0 ≤ d.exp then d.digits * Nat.pow 10 d.exp.toNat * Binary64.unitScale
  else d.digits * Binary64.unitScale

/-- The denominator of a decimal as a ratio of units of `2^-1074`. -/
def den (d : Decimal) : Nat := if 0 ≤ d.exp then 1 else Nat.pow 10 (-d.exp).toNat

theorem den_pos (d : Decimal) : 0 < d.den := by
  unfold den
  split
  · exact Nat.one_pos
  · exact Nat.pow_pos (by decide)

theorem num_mul_den_shift {c c' : Nat} {E : Int} {j : Nat} (h : c' * Nat.pow 10 j = c) :
    (⟨c, E⟩ : Decimal).num * (⟨c', E + j⟩ : Decimal).den =
      (⟨c', E + j⟩ : Decimal).num * (⟨c, E⟩ : Decimal).den := by
  subst h
  unfold num den
  simp only [Nat.pow_eq]
  by_cases hE : 0 ≤ E
  · have hEj : 0 ≤ E + j := by omega
    rw [if_pos hE, if_pos hE, if_pos hEj, if_pos hEj, show (E + j).toNat = E.toNat + j by omega,
      Nat.pow_add]
    ring
  · by_cases hEj : 0 ≤ E + j
    · rw [if_neg hE, if_neg hE, if_pos hEj, if_pos hEj]
      have hsplit : 10 ^ j = 10 ^ (E + j).toNat * 10 ^ (-E).toNat := by
        rw [← Nat.pow_add]
        congr 1
        omega
      rw [hsplit]
      ring
    · rw [if_neg hE, if_neg hE, if_neg hEj, if_neg hEj]
      have hsplit : 10 ^ (-E).toNat = 10 ^ (-(E + j)).toNat * 10 ^ j := by
        rw [← Nat.pow_add]
        congr 1
        omega
      rw [hsplit]
      ring

theorem trimZeros_shift (d : Decimal) :
    ∃ j, (trimZeros d).digits * Nat.pow 10 j = d.digits ∧ (trimZeros d).exp = d.exp + j := by
  fun_induction trimZeros d with
  | case1 d h _ ih =>
    obtain ⟨j, hd, he⟩ := ih
    refine ⟨j + 1, ?_, ?_⟩
    · rw [Nat.pow_eq, Nat.pow_succ, ← Nat.mul_assoc, ← Nat.pow_eq, hd]
      exact Nat.div_mul_cancel (Nat.dvd_of_mod_eq_zero h.2)
    · rw [he]
      push_cast
      ring
  | case2 d h => exact ⟨0, by simp, by simp⟩

theorem rounds_trimZeros {x : Binary64} {d : Decimal} (h : x.Rounds d.num d.den) :
    x.Rounds (trimZeros d).num (trimZeros d).den := by
  have hcross : d.num * (trimZeros d).den = (trimZeros d).num * d.den := by
    obtain ⟨j, hd, he⟩ := trimZeros_shift d
    generalize trimZeros d = t at hd he ⊢
    obtain ⟨c', E'⟩ := t
    obtain ⟨c, E⟩ := d
    dsimp only at hd he
    subst he
    exact num_mul_den_shift hd
  exact (Binary64.rounds_congr (den_pos d) (den_pos _) hcross).1 h

theorem den_eq (c : Nat) (E : Int) : (⟨c, E⟩ : Decimal).den = Nat.pow 10 (-E).toNat := by
  unfold den
  dsimp only
  split
  · rw [show (-E).toNat = 0 by omega]
  · rfl

theorem two_mul_num (c : Nat) (E : Int) :
    2 * (⟨c, E⟩ : Decimal).num = c * (2 * Binary64.unitScale * Nat.pow 10 E.toNat) := by
  unfold num
  dsimp only
  split
  · ring
  · rw [show E.toNat = 0 by omega, Nat.pow_eq, Nat.pow_zero]
    ring

/-! ## Candidates -/

theorem ceilDiv_le_iff {a b c : Nat} (hb : 0 < b) : ceilDiv a b ≤ c ↔ a ≤ c * b := by
  unfold ceilDiv
  rw [← Nat.lt_succ_iff, Nat.div_lt_iff_lt_mul hb, Nat.succ_mul]
  omega

theorem lt_ceilDiv_iff {a b c : Nat} (hb : 0 < b) : c < ceilDiv a b ↔ c * b < a := by
  rw [← Nat.not_le, ceilDiv_le_iff hb, Nat.not_le]

/-- Digits between a candidate's bounds, scaled, lie between the interval's ends, which
count when the interval is closed. -/
theorem bounds_of_between {A B D c : Nat} {closed : Bool} (hD : 0 < D)
    (hlo : (if closed then ceilDiv A D else A / D + 1) ≤ c)
    (hhi : c ≤ (if closed then B / D else ceilDiv B D - 1)) :
    if closed then A ≤ c * D ∧ c * D ≤ B else A < c * D ∧ c * D < B := by
  cases closed
  · simp only [Bool.false_eq_true, if_false] at hlo hhi ⊢
    have hA : A < c * D := (Nat.div_lt_iff_lt_mul hD).1 hlo
    -- the quotient is a natural number, which omega would lose through its casts
    generalize A / D = q at hlo
    have hc : c < ceilDiv B D := by omega
    exact ⟨hA, (lt_ceilDiv_iff hD).1 hc⟩
  · simp only [if_true] at hlo hhi ⊢
    exact ⟨(ceilDiv_le_iff hD).1 hlo, (Nat.le_div_iff_mul_le hD).1 hhi⟩

theorem between_of_wide {A B D : Nat} (closed : Bool) (hD : 0 < D) (h : A + D < B) :
    (if closed then ceilDiv A D else A / D + 1) ≤ (if closed then B / D else ceilDiv B D - 1) := by
  cases closed
  · simp only [Bool.false_eq_true, if_false]
    have hstep : (A / D + 1) * D ≤ A + D := by
      rw [Nat.succ_mul]
      exact Nat.add_le_add_right (Nat.div_mul_le_self A D) D
    have := (lt_ceilDiv_iff hD).2 (Nat.lt_of_le_of_lt hstep h)
    omega
  · simp only [if_true]
    have hstep : ceilDiv A D * D ≤ A + D - 1 := Nat.div_mul_le_self _ _
    exact (Nat.le_div_iff_mul_le hD).2 (by omega)

end Decimal

/-! ## The width of the rounding interval -/

namespace Binary64

theorem pow_scale_le_magnitude {x : Binary64} (hmag : 0 < x.magnitude) :
    Nat.pow 2 x.scale ≤ x.magnitude := by
  have hsig : 0 < x.significand := Nat.pos_of_ne_zero fun h => by
    simp [magnitude, h] at hmag
  exact Nat.le_mul_of_pos_left _ hsig

theorem gapBelow_le_two_mul {x : Binary64} (hmag : 0 < x.magnitude) :
    x.gapBelow ≤ 2 * x.magnitude :=
  Nat.le_trans x.gapBelow_le
    (Nat.le_trans (pow_scale_le_magnitude hmag) (Nat.le_mul_of_pos_left _ (by decide)))

/-- The rounding interval is wide: sixteen decades of its width exceed twice the
magnitude, since a significand has fewer than seventeen digits. -/
theorem two_mul_magnitude_lt (x : Binary64) :
    2 * x.magnitude < Nat.pow 10 16 * (Nat.pow 2 x.scale + x.gapBelow) := by
  have hpos : 0 < Nat.pow 2 x.scale := Nat.pow_pos (by decide)
  unfold magnitude gapBelow
  split
  · next hf =>
    -- at a power of two the gap below is half the gap above
    obtain ⟨hf0, he⟩ := hf
    have hsig : x.significand = Nat.pow 2 52 := by
      unfold significand
      rw [if_neg (show x.exponentField ≠ 0 by omega), hf0]
    have hk : Nat.pow 2 x.scale = 2 * Nat.pow 2 (x.scale - 1) := by
      have hs : x.scale = x.scale - 1 + 1 := by
        unfold scale
        rw [if_neg (show x.exponentField ≠ 0 by omega)]
        omega
      rw [hs, Nat.pow_eq, Nat.pow_succ, Nat.add_sub_cancel, Nat.mul_comm]
      rfl
    rw [hsig, hk]
    generalize Nat.pow 2 (x.scale - 1) = g at hpos hk ⊢
    have h52 : Nat.pow 2 52 = 4503599627370496 := by decide
    have h16 : Nat.pow 10 16 = 10000000000000000 := by decide
    rw [h52, h16]
    omega
  · have hsig : x.significand < Nat.pow 10 16 :=
      Nat.lt_of_lt_of_le x.significand_lt (by decide)
    calc 2 * (x.significand * Nat.pow 2 x.scale)
        = x.significand * (Nat.pow 2 x.scale + Nat.pow 2 x.scale) := by ring
      _ < Nat.pow 10 16 * (Nat.pow 2 x.scale + Nat.pow 2 x.scale) :=
        Nat.mul_lt_mul_of_pos_right hsig (by omega)

theorem log2_magnitude_lt {x : Binary64} (hx : x.exponentField < 2047) :
    Nat.log2 x.magnitude < 2098 := by
  by_cases h0 : x.magnitude = 0
  · rw [h0, Nat.log2_zero]
    decide
  · have hscale : x.scale ≤ 2045 := by
      unfold scale
      split <;> omega
    have hlt : x.magnitude < 2 ^ (53 + x.scale) := by
      rw [Nat.pow_add]
      exact Nat.mul_lt_mul_of_pos_right x.significand_lt (Nat.pow_pos (by decide))
    exact Nat.lt_of_lt_of_le ((Nat.log2_lt h0).2 hlt) (by omega)

theorem rounds_of_bounds {x : Binary64} (hmag : 0 < x.magnitude) {c : Nat} {E : Int}
    {closed : Bool} (hclosed : closed = decide (x.significand % 2 = 0))
    (h : if closed then
        (2 * x.magnitude - x.gapBelow) * Nat.pow 10 (-E).toNat ≤
            c * (2 * unitScale * Nat.pow 10 E.toNat) ∧
          c * (2 * unitScale * Nat.pow 10 E.toNat) ≤
            (2 * x.magnitude + Nat.pow 2 x.scale) * Nat.pow 10 (-E).toNat
      else
        (2 * x.magnitude - x.gapBelow) * Nat.pow 10 (-E).toNat <
            c * (2 * unitScale * Nat.pow 10 E.toNat) ∧
          c * (2 * unitScale * Nat.pow 10 E.toNat) <
            (2 * x.magnitude + Nat.pow 2 x.scale) * Nat.pow 10 (-E).toNat) :
    x.Rounds (⟨c, E⟩ : Decimal).num (⟨c, E⟩ : Decimal).den := by
  have hgap := gapBelow_le_two_mul hmag
  subst hclosed
  simp only [decide_eq_true_eq] at h
  unfold Rounds
  rw [Decimal.den_eq, Decimal.two_mul_num]
  generalize Nat.pow 10 (-E).toNat = up at h ⊢
  have hlo : (2 * x.magnitude - x.gapBelow) * up + x.gapBelow * up = 2 * x.magnitude * up := by
    rw [← Nat.add_mul, Nat.sub_add_cancel hgap]
  have hhi : (2 * x.magnitude + Nat.pow 2 x.scale) * up =
      2 * x.magnitude * up + Nat.pow 2 x.scale * up := Nat.add_mul _ _ _
  split
  · next hs =>
    rw [if_pos hs] at h
    omega
  · next hs =>
    rw [if_neg hs] at h
    omega

end Binary64

/-! ## The search -/

namespace Decimal

theorem rounds_of_candidate {x : Binary64} (hmag : 0 < x.magnitude) {e10 : Int} {p : Nat}
    {d : Decimal}
    (h : candidate (2 * x.magnitude - x.gapBelow) (2 * x.magnitude)
      (2 * x.magnitude + Nat.pow 2 x.scale) (decide (x.significand % 2 = 0)) e10 p = some d) :
    x.Rounds d.num d.den := by
  unfold candidate at h
  simp only [Option.ite_none_right_eq_some, Option.some.injEq] at h
  obtain ⟨hle, rfl⟩ := h
  have hD : 0 < 2 * Binary64.unitScale * Nat.pow 10 (e10 - p + 1).toNat :=
    Nat.mul_pos (Nat.mul_pos (by decide) Binary64.unitScale_pos) (Nat.pow_pos (by decide))
  exact rounds_trimZeros (Binary64.rounds_of_bounds hmag rfl
    (bounds_of_between hD (Nat.le_min.2 ⟨Nat.le_max_right _ _, hle⟩) (Nat.min_le_right _ _)))

/-- A power of ten at most the magnitude, taken sixteen decades down, is at most the
magnitude: both sides scaled to whole numbers. -/
theorem scaled_unit_le {mag : Nat} {E : Int} (h : powTenAtMost mag (E + 16) = true) :
    Binary64.unitScale * Nat.pow 10 16 * Nat.pow 10 E.toNat ≤ mag * Nat.pow 10 (-E).toNat := by
  unfold powTenAtMost at h
  generalize Binary64.unitScale = U at h ⊢
  simp only [Nat.pow_eq] at h ⊢
  split at h
  · next hE16 =>
    simp only [decide_eq_true_eq] at h
    by_cases hE : 0 ≤ E
    · rw [show (E + 16).toNat = E.toNat + 16 by omega] at h
      rw [show (-E).toNat = 0 by omega]
      calc U * 10 ^ 16 * 10 ^ E.toNat = 10 ^ (E.toNat + 16) * U := by ring
        _ ≤ mag := h
        _ = mag * 10 ^ 0 := by ring
    · have hsplit : 10 ^ 16 = 10 ^ (E + 16).toNat * 10 ^ (-E).toNat := by
        rw [← Nat.pow_add]
        congr 1
        omega
      rw [show E.toNat = 0 by omega, hsplit]
      calc U * (10 ^ (E + 16).toNat * 10 ^ (-E).toNat) * 10 ^ 0
          = 10 ^ (E + 16).toNat * U * 10 ^ (-E).toNat := by ring
        _ ≤ mag * 10 ^ (-E).toNat := Nat.mul_le_mul_right _ h
  · next hE16 =>
    simp only [decide_eq_true_eq] at h
    rw [show E.toNat = 0 by omega, show (-E).toNat = (-(E + 16)).toNat + 16 by omega]
    calc U * 10 ^ 16 * 10 ^ 0 = U * 10 ^ 16 := by ring
      _ ≤ mag * 10 ^ (-(E + 16)).toNat * 10 ^ 16 := Nat.mul_le_mul_right _ h
      _ = mag * 10 ^ ((-(E + 16)).toNat + 16) := by ring

/-- Seventeen digits always suffice: below a power of ten at most the magnitude, the
candidate with seventeen digits exists. -/
theorem candidate_isSome {x : Binary64} (hmag : 0 < x.magnitude) {e10 : Int}
    (h : powTenAtMost x.magnitude e10 = true) :
    (candidate (2 * x.magnitude - x.gapBelow) (2 * x.magnitude)
      (2 * x.magnitude + Nat.pow 2 x.scale) (decide (x.significand % 2 = 0)) e10 17).isSome =
      true := by
  unfold candidate
  dsimp only
  obtain ⟨E, hE⟩ : ∃ E, e10 - ((17 : Nat) : Int) + 1 = E := ⟨_, rfl⟩
  rw [hE]
  rw [show e10 = E + 16 by omega] at h
  have hD : 0 < 2 * Binary64.unitScale * Nat.pow 10 E.toNat :=
    Nat.mul_pos (Nat.mul_pos (by decide) Binary64.unitScale_pos) (Nat.pow_pos (by decide))
  have hup : 0 < Nat.pow 10 (-E).toNat := Nat.pow_pos (by decide)
  have hwide : 2 * Binary64.unitScale * Nat.pow 10 E.toNat <
      (Nat.pow 2 x.scale + x.gapBelow) * Nat.pow 10 (-E).toNat := by
    have h1 := scaled_unit_le h
    have h2 := x.two_mul_magnitude_lt
    refine Nat.lt_of_mul_lt_mul_left (?_ : Nat.pow 10 16 * _ < Nat.pow 10 16 * _)
    calc Nat.pow 10 16 * (2 * Binary64.unitScale * Nat.pow 10 E.toNat)
        = 2 * (Binary64.unitScale * Nat.pow 10 16 * Nat.pow 10 E.toNat) := by ring
      _ ≤ 2 * (x.magnitude * Nat.pow 10 (-E).toNat) := Nat.mul_le_mul_left 2 h1
      _ = 2 * x.magnitude * Nat.pow 10 (-E).toNat := by ring
      _ < Nat.pow 10 16 * (Nat.pow 2 x.scale + x.gapBelow) * Nat.pow 10 (-E).toNat :=
        Nat.mul_lt_mul_of_pos_right h2 hup
      _ = Nat.pow 10 16 * ((Nat.pow 2 x.scale + x.gapBelow) * Nat.pow 10 (-E).toNat) := by ring
  have hends : (2 * x.magnitude - x.gapBelow) * Nat.pow 10 (-E).toNat +
      (Nat.pow 2 x.scale + x.gapBelow) * Nat.pow 10 (-E).toNat =
      (2 * x.magnitude + Nat.pow 2 x.scale) * Nat.pow 10 (-E).toNat := by
    rw [← Nat.add_mul]
    have := Binary64.gapBelow_le_two_mul hmag
    congr 1
    omega
  rw [if_pos (between_of_wide _ hD (by omega))]
  rfl

end Decimal

namespace Binary64

/-- The candidate with `p` digits for the rounding interval of a double, the step of the
search for its shortest digits. -/
def candidateAt (x : Binary64) (p : Nat) : Option Decimal :=
  Decimal.candidate (2 * x.magnitude - x.gapBelow) (2 * x.magnitude)
    (2 * x.magnitude + Nat.pow 2 x.scale) (decide (x.significand % 2 = 0))
    (Decimal.decimalExponent x.magnitude) p

theorem shortest_eq (x : Binary64) :
    x.shortest = ((List.range 17).findSome? fun i => x.candidateAt (i + 1)).getD
      ⟨x.magnitude, -1074⟩ := rfl

/-- The shortest digits of a finite non-zero double lie within its rounding interval. -/
theorem rounds_shortest {x : Binary64} (hx : x.exponentField < 2047) (hmag : 0 < x.magnitude) :
    x.Rounds x.shortest.num x.shortest.den := by
  have hpow := Decimal.powTenAtMost_decimalExponent hmag (log2_magnitude_lt hx)
  -- the search over digit counts reaches seventeen digits at the latest
  have hsome : ((List.range 17).findSome? fun i => x.candidateAt (i + 1)).isSome = true :=
    List.findSome?_isSome_iff.2
      ⟨16, List.mem_range.2 (by decide), Decimal.candidate_isSome hmag hpow⟩
  obtain ⟨d, hd⟩ := Option.isSome_iff_exists.1 hsome
  obtain ⟨i, -, hi⟩ := List.exists_of_findSome?_eq_some hd
  rw [shortest_eq, hd, Option.getD_some]
  exact Decimal.rounds_of_candidate hmag hi

/-- The shortest digits of a finite non-zero double read back as that double. -/
theorem ofRatio_shortest {x : Binary64} (hx : x.exponentField < 2047) (hmag : 0 < x.magnitude)
    (neg : Bool) :
    ofRatio neg x.shortest.num x.shortest.den = ofFields neg x.exponentField x.fractionField :=
  ofRatio_of_rounds hx (Decimal.den_pos _) (rounds_shortest hx hmag) neg

end Binary64

end Templating
