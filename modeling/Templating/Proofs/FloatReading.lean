import Templating.Proofs.ShortestDigits
import Templating.Proofs.Lexing
import Templating.Number.FloatText
import Templating.Expr.Parse
/-!
# Doubles read back from their text

The text of a finite double reads back as that double, in program text and in JSON alike
(`Binary64.readFloat?_render`), and inside expression text the same characters scan as one
number literal (`Token.numberText_render`) whose value is the double
(`Expr.number_render`).

Number text is cut the way both readers cut it (`Reading.Numeral`): whole digits, digits
after a point, and a signed exponent. Reading such text gives the double nearest its decimal
(`Reading.readFloat?_text`). The layouts of `FloatLayout.layDigits`, positional or with an
exponent, are number text of the value of the digits they place
(`FloatLayout.layDigits_numeral`). The shortest digits of a double lie in its rounding
interval, so they round back to it, once they pass reading's two range checks; a decimal in
the interval of a finite double always passes them, since its point stands between 330
places down and 310 places up (`Reading.ofDecimal_of_rounds`).

Main statements:

    exponentField < 2047 → readFloat? (render L x) = some x          (readFloat?_render)
    exponentField < 2047 → signBit = false →
      number (render L x) = ok (float x)                              (number_render)
    … → EndsNumber r → numberText (render L x ++ r) = render L x     (numberText_render)
-/

namespace Templating

/-! ## Decimal text -/

namespace Text

theorem isDigit_eq_isAsciiDigit {c : Nat} (hc : c < 0x80) : isDigit c = isAsciiDigit c := by
  have key : ∀ c < 0x80, isDigit c = isAsciiDigit c := by decide
  exact key c hc

theorem isAsciiDigit_of_mem_decimal {n c : Nat} (h : c ∈ decimal n) : isAsciiDigit c = true := by
  unfold decimal ofString at h
  rw [Nat.toList_repr] at h
  obtain ⟨ch, hch, rfl⟩ := List.mem_map.1 h
  have hd := Nat.isDigit_of_mem_toDigits (by decide) (by decide) hch
  simp only [Char.isDigit, Bool.and_eq_true, decide_eq_true_eq] at hd
  simp only [isAsciiDigit, Bool.and_eq_true, decide_eq_true_eq]
  exact ⟨hd.1, hd.2⟩

theorem decimal_ne_nil (n : Nat) : decimal n ≠ [] := by
  unfold decimal ofString
  rw [Nat.toList_repr]
  simp

theorem length_decimal_le_iff {n k : Nat} (hk : 0 < k) :
    (decimal n).length ≤ k ↔ n < Nat.pow 10 k := by
  unfold decimal ofString
  rw [List.length_map, Nat.toList_repr]
  exact Nat.length_toDigits_le_iff (by decide) hk

end Text

/-! ## The span of a rounding interval -/

namespace Binary64

theorem den_le_two_mul_of_rounds {x : Binary64} (hmag : 0 < x.magnitude) {num den : Nat}
    (h : x.Rounds num den) : den ≤ 2 * num := by
  have hlow : 2 * x.magnitude * den ≤ 2 * num + x.gapBelow * den := by
    unfold Rounds at h
    split at h
    · exact h.1
    · exact Nat.le_of_lt h.1
  have hgap : x.gapBelow + 1 ≤ 2 * x.magnitude :=
    Nat.le_trans (Nat.succ_le_succ x.gapBelow_le) (by have := pow_scale_le_magnitude hmag; omega)
  have hmul : x.gapBelow * den + den ≤ 2 * x.magnitude * den := by
    rw [← Nat.succ_mul]
    exact Nat.mul_le_mul_right den hgap
  omega

/-- A ratio in the rounding interval of a finite double lies below `2^1025`, in doubled
units of `2^-1074`. -/
theorem two_mul_num_lt_of_rounds {x : Binary64} (hx : x.exponentField < 2047) {num den : Nat}
    (hden : 0 < den) (h : x.Rounds num den) : 2 * num < Nat.pow 2 2100 * den := by
  have hup : 2 * num ≤ 2 * x.magnitude * den + Nat.pow 2 x.scale * den := by
    unfold Rounds at h
    split at h
    · exact h.2
    · exact Nat.le_of_lt h.2
  have hscale : x.scale ≤ 2045 := by
    unfold scale
    split <;> omega
  have hmag : x.magnitude < Nat.pow 2 53 * Nat.pow 2 x.scale :=
    Nat.mul_lt_mul_of_pos_right x.significand_lt (Nat.pow_pos (by decide))
  -- the power's exponent stays a variable, so that the power is never computed
  generalize hT : (2100 : Nat) = N
  have hN : 55 + x.scale ≤ N := by omega
  have htop : 4 * (Nat.pow 2 53 * Nat.pow 2 x.scale) ≤ Nat.pow 2 N := by
    have h55 : 4 * Nat.pow 2 53 = Nat.pow 2 55 := by decide
    rw [← Nat.mul_assoc, h55, Nat.pow_eq, Nat.pow_eq, ← Nat.pow_add]
    exact Nat.pow_le_pow_right (by decide) hN
  have hsum : 2 * x.magnitude + Nat.pow 2 x.scale < 4 * (Nat.pow 2 53 * Nat.pow 2 x.scale) := by
    have hk : Nat.pow 2 x.scale ≤ Nat.pow 2 53 * Nat.pow 2 x.scale :=
      Nat.le_mul_of_pos_left _ (by decide)
    omega
  calc 2 * num ≤ (2 * x.magnitude + Nat.pow 2 x.scale) * den := by rw [Nat.add_mul]; exact hup
    _ < Nat.pow 2 N * den := Nat.mul_lt_mul_of_pos_right (Nat.lt_of_lt_of_le hsum htop) hden

end Binary64

namespace Reading

theorem foldl_digits (init : Nat) (ds : Text) :
    ds.foldl (fun acc c => 10 * acc + (c - 0x30)) init =
      init * Nat.pow 10 ds.length + digitsValue ds := by
  induction ds generalizing init with
  | nil => simp [digitsValue]
  | cons c ds ih =>
    simp only [digitsValue, List.foldl_cons, List.length_cons] at ih ⊢
    rw [ih, ih (10 * 0 + (c - 0x30))]
    simp only [Nat.pow_eq, Nat.pow_succ]
    ring

theorem digitsValue_append (a b : Text) :
    digitsValue (a ++ b) = digitsValue a * Nat.pow 10 b.length + digitsValue b := by
  unfold digitsValue
  rw [List.foldl_append, foldl_digits]
  rfl

theorem digitsValue_decimal (n : Nat) : digitsValue (Text.decimal n) = n := by
  unfold digitsValue Text.decimal Text.ofString
  rw [Nat.toList_repr, List.foldl_map]
  exact Nat.ofDigitChars_ten_toDigits

/-! ## Number text in parts -/

/-- Number text as reading and scanning cut it: the whole digits, the digits after the
point (no point when there are none), and the exponent's sign and digits, if any. -/
structure Numeral where
  whole : Text
  frac : Text
  exp : Option (Bool × Text)
  whole_ne : whole ≠ []
  whole_digits : ∀ c ∈ whole, Text.isAsciiDigit c = true
  frac_digits : ∀ c ∈ frac, Text.isAsciiDigit c = true
  exp_digits : ∀ e ∈ exp, e.2 ≠ [] ∧ ∀ c ∈ e.2, Text.isAsciiDigit c = true

namespace Numeral

/-- The text of an exponent: `e`, its sign and its digits. -/
def expText : Option (Bool × Text) → Text
  | none => []
  | some (neg, ds) => 0x65 :: (if neg then 0x2D else 0x2B) :: ds

/-- The value of an exponent. -/
def expValue : Option (Bool × Text) → Int
  | none => 0
  | some (neg, ds) => if neg then -(digitsValue ds : Int) else digitsValue ds

/-- The point and the digits after it, when there are any. -/
def fracText (frac : Text) : Text := if frac = [] then [] else 0x2E :: frac

/-- The text of the number. -/
def text (n : Numeral) : Text := n.whole ++ fracText n.frac ++ expText n.exp

/-- The decimal the text stands for. -/
def value (n : Numeral) : Decimal :=
  ⟨digitsValue (n.whole ++ n.frac), expValue n.exp - n.frac.length⟩

theorem head_tail (n : Numeral) :
    ∀ c r, fracText n.frac ++ expText n.exp = c :: r → c = 0x2E ∨ c = 0x65 := by
  intro c r h
  unfold fracText at h
  split at h
  · cases hexp : n.exp with
    | none => simp [hexp, expText] at h
    | some e => simp [hexp, expText] at h; exact .inr h.1.symm
  · simp at h
    exact .inl h.1.symm

theorem mem_text {n : Numeral} {c : Nat} (h : c ∈ n.text) :
    Text.isAsciiDigit c = true ∨ c = 0x2E ∨ c = 0x65 ∨ c = 0x2D ∨ c = 0x2B := by
  simp only [text, List.mem_append] at h
  rcases h with (h | h) | h
  · exact .inl (n.whole_digits c h)
  · unfold fracText at h
    split at h
    · simp at h
    · rcases List.mem_cons.1 h with rfl | h
      · exact .inr (.inl rfl)
      · exact .inl (n.frac_digits c h)
  · cases hexp : n.exp with
    | none => simp [hexp, expText] at h
    | some e =>
      obtain ⟨neg, ds⟩ := e
      rw [hexp] at h
      simp only [expText, List.mem_cons] at h
      rcases h with rfl | rfl | h
      · exact .inr (.inr (.inl rfl))
      · cases neg <;> simp
      · exact .inl ((n.exp_digits _ hexp).2 c h)

theorem takeWhile_digits {ds : Text} (h : ∀ c ∈ ds, Text.isAsciiDigit c = true) (r : Text)
    (hr : ∀ c r', r = c :: r' → isDigit c = false) :
    (ds ++ r).takeWhile isDigit = ds ∧ (ds ++ r).dropWhile isDigit = r := by
  have hstop : r.takeWhile isDigit = [] ∧ r.dropWhile isDigit = r := by
    cases r with
    | nil => exact ⟨rfl, rfl⟩
    | cons c r' =>
      have hc := hr c r' rfl
      exact ⟨List.takeWhile_cons_of_neg (by simp [hc]), List.dropWhile_cons_of_neg (by simp [hc])⟩
  have h' : ∀ c ∈ ds, isDigit c = true := h
  rw [List.takeWhile_append_of_pos h', List.dropWhile_append_of_pos h', hstop.1, hstop.2,
    List.append_nil]
  exact ⟨rfl, rfl⟩

theorem exponentPart?_expText (n : Numeral) :
    (exponentPart? (expText n.exp)).getD (0, expText n.exp) = (expValue n.exp, []) := by
  cases hexp : n.exp with
  | none => rfl
  | some e =>
    obtain ⟨neg, ds⟩ := e
    obtain ⟨hne, hds⟩ := n.exp_digits _ hexp
    have hsplit := takeWhile_digits hds [] (fun _ _ h => nomatch h)
    rw [List.append_nil] at hsplit
    have hsign : takeSign ((if neg then 0x2D else 0x2B) :: ds) = (neg, ds) := by
      cases neg <;> rfl
    simp only [expText, exponentPart?, hsign, hsplit.1, hsplit.2]
    cases neg <;> simp [hne, expValue]

theorem decimalPrefix?_text (n : Numeral) (neg : Bool) :
    decimalPrefix? ((if neg then [0x2D] else []) ++ n.text) =
      some (ofDecimal neg n.value.digits n.value.exp, []) := by
  obtain ⟨c, w, hw⟩ := List.exists_cons_of_ne_nil n.whole_ne
  have hc : Text.isAsciiDigit c = true := n.whole_digits c (by simp [hw])
  have hsign : takeSign ((if neg then [0x2D] else []) ++ n.text) = (neg, n.text) := by
    have h2D : c ≠ 0x2D := by simp [Text.isAsciiDigit] at hc; omega
    have h2B : c ≠ 0x2B := by simp [Text.isAsciiDigit] at hc; omega
    cases neg
    · simp only [text, hw, Bool.false_eq_true, if_false, List.nil_append, List.cons_append]
      unfold takeSign
      split <;> simp_all
    · rfl
  have hcut := takeWhile_digits n.whole_digits (fracText n.frac ++ expText n.exp) (by
    intro c' r' h
    rcases head_tail n c' r' h with rfl | rfl <;> rfl)
  rw [← List.append_assoc] at hcut
  unfold decimalPrefix?
  rw [hsign]
  dsimp only
  rw [show n.text = n.whole ++ fracText n.frac ++ expText n.exp from rfl, hcut.1, hcut.2]
  have hwhole : n.whole.isEmpty = false := by simp [hw]
  by_cases hf : n.frac = []
  · have hft : fracText n.frac = [] := by simp [fracText, hf]
    rw [hft, List.nil_append]
    cases hexp : n.exp with
    | none =>
      simp [expText, exponentPart?, hwhole, value, hf, hexp, expValue]
    | some e =>
      have hx := exponentPart?_expText n
      rw [hexp] at hx
      simp only [expText] at hx ⊢
      simp [hwhole, hx, value, hf, hexp]
  · have hft : fracText n.frac = 0x2E :: n.frac := by simp [fracText, hf]
    have hfcut := takeWhile_digits n.frac_digits (expText n.exp) (by
      intro c' r' h
      cases hexp : n.exp with
      | none => simp [hexp, expText] at h
      | some e => simp [hexp, expText] at h; rw [← h.1]; rfl)
    rw [hft, List.cons_append]
    simp only [hfcut.1, hfcut.2, exponentPart?_expText, hwhole, Bool.false_and, Bool.false_eq_true,
      if_false, value]

end Numeral

theorem asciiView_of_lt {c : Nat} (h : c < 0x7F) : asciiView c = c := by
  unfold asciiView
  rw [if_pos h]

theorem trim_of_no_space {t : Text} (h : ∀ c ∈ t, isSpace c = false) :
    ((t.dropWhile isSpace).reverse.dropWhile isSpace).reverse = t := by
  have hfront : t.dropWhile isSpace = t := by
    cases t with
    | nil => rfl
    | cons c r => exact List.dropWhile_cons_of_neg (by simp [h c (List.mem_cons_self ..)])
  have hback : t.reverse.dropWhile isSpace = t.reverse := by
    cases hr : t.reverse with
    | nil => rfl
    | cons c r =>
      have hc : c ∈ t := List.mem_reverse.1 (hr ▸ List.mem_cons_self ..)
      exact List.dropWhile_cons_of_neg (by simp [h c hc])
  rw [hfront, hback, List.reverse_reverse]

theorem readFloat?_text (n : Numeral) (neg : Bool) :
    readFloat? ((if neg then [0x2D] else []) ++ n.text) =
      some (ofDecimal neg n.value.digits n.value.exp) := by
  generalize ht : (if neg then [0x2D] else []) ++ n.text = t
  have hmem : ∀ c ∈ t, Text.isAsciiDigit c = true ∨ c = 0x2E ∨ c = 0x65 ∨ c = 0x2D ∨ c = 0x2B := by
    intro c hc
    rw [← ht] at hc
    rcases List.mem_append.1 hc with h | h
    · cases neg <;> simp at h
      exact .inr (.inr (.inr (.inl h)))
    · exact Numeral.mem_text h
  have hplain : ∀ c ∈ t, c < 0x7F ∧ c ≠ 0x5F ∧ isSpace c = false := by
    intro c hc
    rcases hmem c hc with h | rfl | rfl | rfl | rfl
    · simp only [Text.isAsciiDigit, Bool.and_eq_true, decide_eq_true_eq] at h
      simp only [isSpace, Bool.or_eq_false_iff, decide_eq_false_iff_not, Bool.and_eq_false_imp,
        decide_eq_true_eq]
      omega
    all_goals decide
  have hview : t.map asciiView = t :=
    (List.map_congr_left fun c hc => asciiView_of_lt (hplain c hc).1).trans (List.map_id t)
  have hunder : t.contains 0x5F = false :=
    Bool.eq_false_iff.2 fun h => (hplain _ (List.contains_iff_mem.1 h)).2.1 rfl
  unfold readFloat?
  simp only [hview, hunder, Bool.false_eq_true, if_false, Option.bind_some]
  rw [trim_of_no_space fun c hc => (hplain c hc).2.2, ← ht, Numeral.decimalPrefix?_text]

/-! ## The range checks -/

theorem two_pow_le_ten_pow_top : Nat.pow 2 2100 ≤ Nat.pow 10 310 * (2 * Binary64.unitScale) := by
  decide +kernel

theorem two_mul_unitScale_lt : 2 * Binary64.unitScale < Nat.pow 10 330 := by
  decide +kernel

/-- Digits `V` with `L` of them, scaled by `10^a`, exceed `10^M` scaled by `10^b` when the
decimal point stands far enough up. -/
theorem pow_mul_le_of_length {V L a b M : Nat} (hV : Nat.pow 10 (L - 1) ≤ V)
    (h : M + b ≤ L - 1 + a) : Nat.pow 10 M * Nat.pow 10 b ≤ V * Nat.pow 10 a := by
  calc Nat.pow 10 M * Nat.pow 10 b = Nat.pow 10 (M + b) := by simp only [Nat.pow_eq, Nat.pow_add]
    _ ≤ Nat.pow 10 (L - 1 + a) := Nat.pow_le_pow_right (by decide) h
    _ = Nat.pow 10 (L - 1) * Nat.pow 10 a := by simp only [Nat.pow_eq, Nat.pow_add]
    _ ≤ V * Nat.pow 10 a := Nat.mul_le_mul_right _ hV

/-- Digits `V` with `L` of them, scaled by `10^a` and `10^M`, stay below `10^b` when the
decimal point stands far enough down. -/
theorem mul_pow_lt_of_length {V L a b M : Nat} (hV : V < Nat.pow 10 L)
    (h : L + a + M ≤ b) : V * Nat.pow 10 a * Nat.pow 10 M < Nat.pow 10 b := by
  calc V * Nat.pow 10 a * Nat.pow 10 M < Nat.pow 10 L * Nat.pow 10 a * Nat.pow 10 M :=
        Nat.mul_lt_mul_of_pos_right (Nat.mul_lt_mul_of_pos_right hV (Nat.pow_pos (by decide)))
          (Nat.pow_pos (by decide))
    _ = Nat.pow 10 (L + a + M) := by simp only [Nat.pow_eq, Nat.pow_add]
    _ ≤ Nat.pow 10 b := Nat.pow_le_pow_right (by decide) h

theorem lt_pow_length (V : Nat) : V < Nat.pow 10 (Text.decimal V).length :=
  (Text.length_decimal_le_iff (List.length_pos_iff.2 (Text.decimal_ne_nil V))).1 (Nat.le_refl _)

theorem pow_length_le {V : Nat} (hV : V ≠ 0) : Nat.pow 10 ((Text.decimal V).length - 1) ≤ V := by
  by_cases h1 : (Text.decimal V).length = 1
  · rw [h1]
    exact Nat.one_le_iff_ne_zero.2 hV
  · have hL := List.length_pos_iff.2 (Text.decimal_ne_nil V)
    refine Nat.not_lt.1 fun hlt => ?_
    have := (Text.length_decimal_le_iff (by omega)).2 hlt
    omega

/-- A decimal in the rounding interval of a finite double has its point at most `M` places
up, for an `M` with `2^1025 ≤ 10^M`. -/
theorem length_add_exp_le {x : Binary64} (hx : x.exponentField < 2047) {V : Nat} {X : Int}
    (h : x.Rounds (⟨V, X⟩ : Decimal).num (⟨V, X⟩ : Decimal).den) (hV : V ≠ 0) {M : Nat}
    (hM : Nat.pow 2 2100 ≤ Nat.pow 10 M * (2 * Binary64.unitScale)) :
    ((Text.decimal V).length : Int) + X ≤ M := by
  have hlt := Binary64.two_mul_num_lt_of_rounds hx (Decimal.den_pos ⟨V, X⟩) h
  rw [Decimal.two_mul_num, Decimal.den_eq] at hlt
  generalize Nat.pow 2 2100 = T at hM hlt
  refine Int.not_lt.1 fun hgt => ?_
  have hge := pow_mul_le_of_length (pow_length_le hV)
    (show M + (-X).toNat ≤ (Text.decimal V).length - 1 + X.toNat by omega)
  have key : Nat.pow 10 M * (2 * Binary64.unitScale) * Nat.pow 10 (-X).toNat <
      T * Nat.pow 10 (-X).toNat :=
    calc Nat.pow 10 M * (2 * Binary64.unitScale) * Nat.pow 10 (-X).toNat
        = Nat.pow 10 M * Nat.pow 10 (-X).toNat * (2 * Binary64.unitScale) :=
          Nat.mul_right_comm _ _ _
      _ ≤ V * Nat.pow 10 X.toNat * (2 * Binary64.unitScale) := Nat.mul_le_mul_right _ hge
      _ = V * (2 * Binary64.unitScale * Nat.pow 10 X.toNat) := by ring
      _ < T * Nat.pow 10 (-X).toNat := hlt
  exact absurd hM (Nat.not_le.2 (Nat.lt_of_mul_lt_mul_right key))

/-- A decimal in the rounding interval of a finite non-zero double has its point at most
`M` places down, for an `M` with `2^-1073 > 10^-M`. -/
theorem neg_le_length_add_exp {x : Binary64} (hmag : 0 < x.magnitude) {V : Nat} {X : Int}
    (h : x.Rounds (⟨V, X⟩ : Decimal).num (⟨V, X⟩ : Decimal).den) {M : Nat}
    (hM : 2 * Binary64.unitScale < Nat.pow 10 M) :
    -(M : Int) ≤ (Text.decimal V).length + X := by
  have hpos := Binary64.den_le_two_mul_of_rounds hmag h
  rw [Decimal.two_mul_num, Decimal.den_eq] at hpos
  refine Int.not_lt.1 fun hlt => ?_
  have hsmall := mul_pow_lt_of_length (lt_pow_length V)
    (show (Text.decimal V).length + X.toNat + M ≤ (-X).toNat by omega)
  have key : Nat.pow 10 M * Nat.pow 10 (-X).toNat <
      2 * Binary64.unitScale * Nat.pow 10 (-X).toNat :=
    calc Nat.pow 10 M * Nat.pow 10 (-X).toNat
        ≤ Nat.pow 10 M * (V * (2 * Binary64.unitScale * Nat.pow 10 X.toNat)) :=
          Nat.mul_le_mul_left _ hpos
      _ = V * Nat.pow 10 X.toNat * Nat.pow 10 M * (2 * Binary64.unitScale) := by ring
      _ < Nat.pow 10 (-X).toNat * (2 * Binary64.unitScale) :=
          Nat.mul_lt_mul_of_pos_right hsmall (Nat.mul_pos (by decide) Binary64.unitScale_pos)
      _ = 2 * Binary64.unitScale * Nat.pow 10 (-X).toNat := Nat.mul_comm _ _
  exact absurd hM (Nat.not_lt.2 (Nat.le_of_lt (Nat.lt_of_mul_lt_mul_right key)))

/-- A decimal within the rounding interval of a finite non-zero double passes reading's
range checks, so it reads as that double. -/
theorem ofDecimal_of_rounds {x : Binary64} (hx : x.exponentField < 2047)
    (hmag : 0 < x.magnitude) {V : Nat} {X : Int}
    (h : x.Rounds (⟨V, X⟩ : Decimal).num (⟨V, X⟩ : Decimal).den) (neg : Bool) :
    ofDecimal neg V X = Binary64.ofFields neg x.exponentField x.fractionField := by
  have hV : V ≠ 0 := by
    rintro rfl
    have hpos := Binary64.den_le_two_mul_of_rounds hmag h
    rw [Decimal.two_mul_num, Nat.zero_mul] at hpos
    have := Decimal.den_pos ⟨0, X⟩
    omega
  have hhi := length_add_exp_le hx h hV two_pow_le_ten_pow_top
  have hlo := neg_le_length_add_exp hmag h two_mul_unitScale_lt
  have hread := Binary64.ofRatio_of_rounds hx (Decimal.den_pos _) h neg
  unfold ofDecimal
  rw [if_neg hV]
  dsimp only
  have hnot_inf : ¬ (310 < ((Text.decimal V).length : Int) + X) := by omega
  have hnot_zero : ¬ (((Text.decimal V).length : Int) + X < -330) := by omega
  rw [if_neg hnot_inf, if_neg hnot_zero]
  unfold Decimal.num Decimal.den at hread
  dsimp only at hread
  by_cases hX : 0 ≤ X
  · rw [if_pos hX, if_pos hX] at hread
    rw [if_pos hX]
    exact hread
  · rw [if_neg hX, if_neg hX] at hread
    rw [if_neg hX]
    exact hread

end Reading

/-! ## Laid-out digits as number text -/

namespace FloatLayout

open Reading

theorem zeros_digits (k : Nat) : ∀ c ∈ zeros k, Text.isAsciiDigit c = true := by
  intro c hc
  rw [(List.mem_replicate.1 hc).2]
  rfl

theorem length_zeros (k : Nat) : (zeros k).length = k := List.length_replicate

theorem digitsValue_zeros (k : Nat) : digitsValue (zeros k) = 0 := by
  induction k with
  | zero => rfl
  | succ k ih =>
    rw [zeros, List.replicate_succ', ← zeros, digitsValue_append, ih]
    rfl

section
variable {ds : Text} (hds : ∀ c ∈ ds, Text.isAsciiDigit c = true)
include hds

theorem numeral_small (hne : ds ≠ []) (k : Nat) :
    ∃ n : Numeral, Text.ofString "0." ++ zeros k ++ ds = n.text ∧ n.frac ≠ [] ∧
      n.value = ⟨digitsValue ds, -((k + ds.length : Nat) : Int)⟩ := by
  have hfrac : zeros k ++ ds ≠ [] := by simp [hne]
  refine ⟨⟨[0x30], zeros k ++ ds, none, by simp, by decide, ?_, by simp⟩, ?_, hfrac, ?_⟩
  · intro c hc
    rcases List.mem_append.1 hc with h | h
    · exact zeros_digits k c h
    · exact hds c h
  · simp only [Numeral.text, Numeral.fracText, if_neg hfrac, Numeral.expText, List.append_nil]
    rfl
  · have h0 : digitsValue [0x30] = 0 := rfl
    simp only [Numeral.value, Numeral.expValue, digitsValue_append, digitsValue_zeros, h0,
      List.length_append, length_zeros, Nat.zero_mul, Nat.zero_add]
    congr 1
    push_cast
    ring

theorem numeral_split (p : Nat) (hp : 0 < p) (hlt : p < ds.length) :
    ∃ n : Numeral, ds.take p ++ [0x2E] ++ ds.drop p = n.text ∧ n.frac ≠ [] ∧
      n.value = ⟨digitsValue ds, -((ds.length - p : Nat) : Int)⟩ := by
  have hfrac : ds.drop p ≠ [] := by simp; omega
  have hwhole : ds.take p ≠ [] := List.ne_nil_of_length_pos (by simp; omega)
  refine ⟨⟨ds.take p, ds.drop p, none, hwhole, fun c hc => hds c (List.mem_of_mem_take hc),
    fun c hc => hds c (List.mem_of_mem_drop hc), by simp⟩, ?_, hfrac, ?_⟩
  · simp [Numeral.text, Numeral.fracText, hfrac, Numeral.expText]
  · simp only [Numeral.value, Numeral.expValue, List.take_append_drop, List.length_drop]
    congr 1
    ring

theorem numeral_large (hne : ds ≠ []) (j : Nat) :
    ∃ n : Numeral, ds ++ zeros j ++ Text.ofString ".0" = n.text ∧ n.frac ≠ [] ∧
      n.value = ⟨digitsValue ds * Nat.pow 10 (j + 1), -1⟩ := by
  refine ⟨⟨ds ++ zeros j, [0x30], none, by simp [hne], ?_, by decide, by simp⟩, ?_,
    by simp, ?_⟩
  · intro c hc
    rcases List.mem_append.1 hc with h | h
    · exact hds c h
    · exact zeros_digits j c h
  · simp only [Numeral.text, Numeral.fracText, Numeral.expText, List.append_nil]
    rfl
  · have h0 : digitsValue [0x30] = 0 := rfl
    simp only [Numeral.value, Numeral.expValue, digitsValue_append, digitsValue_zeros, h0,
      length_zeros, List.length_cons, List.length_nil, Nat.add_zero, Nat.pow_eq, Nat.pow_succ]
    congr 1
    ring

theorem numeral_scientific (hne : ds ≠ []) (neg : Bool) (ex : Text) (hex : ex ≠ [])
    (hexd : ∀ c ∈ ex, Text.isAsciiDigit c = true) :
    ∃ n : Numeral,
      ds.take 1 ++ (if ds.length > 1 then 0x2E :: ds.drop 1 else []) ++
          [0x65, if neg then 0x2D else 0x2B] ++ ex = n.text ∧ n.exp ≠ none ∧
      n.value = ⟨digitsValue ds, (if neg then -(digitsValue ex : Int) else digitsValue ex) -
        ((ds.length - 1 : Nat) : Int)⟩ := by
  refine ⟨⟨ds.take 1, ds.drop 1, some (neg, ex), by simp [hne], fun c hc => hds c (List.mem_of_mem_take hc),
    fun c hc => hds c (List.mem_of_mem_drop hc), ?_⟩, ?_, by simp, ?_⟩
  · intro e he
    simp only [Option.mem_def, Option.some.injEq] at he
    subst he
    exact ⟨hex, hexd⟩
  · obtain ⟨c, rest, rfl⟩ := List.exists_cons_of_ne_nil hne
    by_cases hr : rest = []
    · subst hr
      simp [Numeral.text, Numeral.fracText, Numeral.expText]
    · have h1 : 0 < rest.length := List.length_pos_iff.2 hr
      simp [Numeral.text, Numeral.fracText, Numeral.expText, h1, hr]
  · simp only [Numeral.value, Numeral.expValue, List.take_append_drop, List.length_drop]

end

/-- Laid out in either notation, the digits of `D` with the point placed for `D · 10^E` are
number text of that value. -/
theorem layDigits_numeral (L : FloatLayout) (D : Nat) (E : Int) :
    ∃ n : Numeral, L.layDigits (Text.decimal D) (E + (Text.decimal D).length) = n.text ∧
      (n.frac ≠ [] ∨ n.exp ≠ none) ∧
      n.value.num * (⟨D, E⟩ : Decimal).den = (⟨D, E⟩ : Decimal).num * n.value.den := by
  have hds : ∀ c ∈ Text.decimal D, Text.isAsciiDigit c = true :=
    fun c hc => Text.isAsciiDigit_of_mem_decimal hc
  have hne := Text.decimal_ne_nil D
  have hval := digitsValue_decimal D
  generalize Text.decimal D = ds at hds hne hval ⊢
  have hlen : 0 < ds.length := List.length_pos_iff.2 hne
  subst hval
  unfold layDigits
  split
  · -- positional notation: where the point stands among the digits
    split
    · obtain ⟨n, htext, hfrac, hvalue⟩ := numeral_small hds hne (-(E + ds.length)).toNat
      refine ⟨n, htext.trans rfl, .inl hfrac, ?_⟩
      rw [hvalue, show -(((-(E + ds.length)).toNat + ds.length : Nat) : Int) = E by omega]
    · split
      · obtain ⟨n, htext, hfrac, hvalue⟩ :=
          numeral_split hds (E + ds.length).toNat (by omega) (by omega)
        refine ⟨n, htext, .inl hfrac, ?_⟩
        rw [hvalue, show -((ds.length - (E + ds.length).toNat : Nat) : Int) = E by omega]
      · have hE : -1 + (((E + ds.length).toNat - ds.length + 1 : Nat) : Int) = E := by omega
        generalize (E + ds.length).toNat - ds.length = j at hE
        obtain ⟨n, htext, hfrac, hvalue⟩ := numeral_large hds hne j
        refine ⟨n, htext, .inl hfrac, ?_⟩
        have key := @Decimal.num_mul_den_shift _ (digitsValue ds) (-1) (j + 1) rfl
        rw [hE] at key
        rw [hvalue]
        exact key
  · -- scientific notation: the exponent carries the point
    obtain ⟨n, htext, hexp, hvalue⟩ := numeral_scientific hds hne (decide (E + ds.length - 1 < 0))
      (zeros (L.expDigits - (Text.decimal (E + ds.length - 1).natAbs).length) ++
        Text.decimal (E + ds.length - 1).natAbs)
      (by simp [Text.decimal_ne_nil])
      (fun c hc => by
        rcases List.mem_append.1 hc with h | h
        · exact zeros_digits _ c h
        · exact Text.isAsciiDigit_of_mem_decimal h)
    refine ⟨n, ?_, .inr hexp, ?_⟩
    · rw [← htext]
      simp only [decide_eq_true_eq, List.append_assoc]
    · rw [hvalue, digitsValue_append, digitsValue_zeros, digitsValue_decimal, Nat.zero_mul,
        Nat.zero_add]
      have hE : (if decide (E + ds.length - 1 < 0) = true then
          -(((E + ds.length - 1).natAbs : Nat) : Int) else ((E + ds.length - 1).natAbs : Int)) -
          ((ds.length - 1 : Nat) : Int) = E := by
        split
        · next hneg =>
          simp only [decide_eq_true_eq] at hneg
          omega
        · next hneg =>
          simp only [decide_eq_true_eq] at hneg
          omega
      rw [hE]

end FloatLayout

/-! ## Doubles as number text -/

namespace Binary64

open Reading

theorem magnitude_eq_zero {x : Binary64} (h : x.magnitude = 0) :
    x.exponentField = 0 ∧ x.fractionField = 0 := by
  have hsig : x.significand = 0 := by
    rcases Nat.mul_eq_zero.1 h with h | h
    · exact h
    · exact absurd h (Nat.pos_iff_ne_zero.1 (Nat.pow_pos (by decide)))
  unfold significand at hsig
  split at hsig
  · exact ⟨‹_›, hsig⟩
  · have : 0 < Nat.pow 2 52 := Nat.pow_pos (by decide)
    omega

theorem render_finite (L : FloatLayout) {x : Binary64} (hx : x.exponentField < 2047) :
    ∃ n : Numeral, x.render L = (if x.signBit then [0x2D] else []) ++ n.text ∧
      (n.frac ≠ [] ∨ n.exp ≠ none) ∧
      ∀ neg, ofDecimal neg n.value.digits n.value.exp =
        ofFields neg x.exponentField x.fractionField := by
  unfold render
  rw [shape_of_lt hx]
  dsimp only
  split
  · next hm => cases hm
  · next hm => cases hm
  · next hm =>
    obtain ⟨he, hf⟩ := magnitude_eq_zero (Shape.finite.inj hm).2
    refine ⟨⟨[0x30], [0x30], none, by simp, by decide, by decide, by simp⟩, rfl, .inl (by simp),
      fun neg => ?_⟩
    rw [he, hf]
    rfl
  · next hne hm =>
    have hmag : 0 < x.magnitude :=
      Nat.pos_of_ne_zero fun h0 => hne (by rw [← (Shape.finite.inj hm).2, h0])
    obtain ⟨n, htext, hshape, hcross⟩ :=
      FloatLayout.layDigits_numeral L x.shortest.digits x.shortest.exp
    refine ⟨n, by rw [htext], hshape, fun neg => ?_⟩
    have hn : x.Rounds n.value.num n.value.den :=
      (rounds_congr (Decimal.den_pos _) (Decimal.den_pos _) hcross.symm).1 (rounds_shortest hx hmag)
    exact ofDecimal_of_rounds hx hmag hn neg

/-- Every finite double's text reads back as that double. -/
theorem readFloat?_render (L : FloatLayout) {x : Binary64} (hx : x.exponentField < 2047) :
    Reading.readFloat? (x.render L) = some x := by
  obtain ⟨n, htext, -, hread⟩ := render_finite L hx
  rw [htext, Reading.readFloat?_text, hread, ofFields_fields]

end Binary64

namespace Token

open Reading

theorem isDigit_of_isAsciiDigit {c : Nat} (h : Text.isAsciiDigit c = true) : Text.isDigit c = true := by
  have hc : c < 0x80 := by
    simp only [Text.isAsciiDigit, Bool.and_eq_true, decide_eq_true_eq] at h
    omega
  rw [Text.isDigit_eq_isAsciiDigit hc, h]

theorem takeWhile_isDigit {ds r : Text} (hds : ∀ c ∈ ds, Text.isAsciiDigit c = true)
    (hr : ∀ c r', r = c :: r' → Text.isDigit c = false) : (ds ++ r).takeWhile Text.isDigit = ds := by
  rw [List.takeWhile_append_of_pos fun c hc => isDigit_of_isAsciiDigit (hds c hc)]
  cases r with
  | nil => simp
  | cons c r' =>
    have hc := hr c r' rfl
    rw [List.takeWhile_cons_of_neg (by simp [hc]), List.append_nil]

theorem fraction_of_ne {c : Nat} {r : Text} (h : c ≠ 0x2E) : fraction (c :: r) = [] := by
  unfold fraction
  split <;> simp_all

theorem exponent_of_ne {c : Nat} {r : Text} (h1 : c ≠ 0x65) (h2 : c ≠ 0x45) :
    exponent (c :: r) = [] := by
  simp [exponent, h1, h2]

/-- Nothing at the head of the text continues a number: no digit, point or `e`. -/
def EndsNumber (r : Text) : Prop :=
  ∀ c r', r = c :: r' → Text.isDigit c = false ∧ c ≠ 0x2E ∧ c ≠ 0x65 ∧ c ≠ 0x45

section
variable (n : Numeral) {r : Text} (hr : EndsNumber r)
include hr

theorem head_expText : ∀ c r', Numeral.expText n.exp ++ r = c :: r' →
    Text.isDigit c = false ∧ c ≠ 0x2E := by
  intro c r' h
  cases hx : n.exp with
  | none =>
    rw [hx] at h
    exact ⟨(hr c r' h).1, (hr c r' h).2.1⟩
  | some e =>
    rw [hx] at h
    simp only [Numeral.expText, List.cons_append, List.cons.injEq] at h
    rw [← h.1]
    decide

theorem exponent_expText : exponent (Numeral.expText n.exp ++ r) = Numeral.expText n.exp := by
  cases hx : n.exp with
  | none =>
    cases r with
    | nil => rfl
    | cons c r' => exact exponent_of_ne (hr c r' rfl).2.2.1 (hr c r' rfl).2.2.2
  | some e =>
    obtain ⟨neg, ds⟩ := e
    obtain ⟨hne, hds⟩ := n.exp_digits _ hx
    simp only [Numeral.expText, List.cons_append, exponent]
    simp [takeWhile_isDigit hds fun c r' h => (hr c r' h).1, hne]

theorem fraction_fracText :
    fraction (Numeral.fracText n.frac ++ (Numeral.expText n.exp ++ r)) =
      Numeral.fracText n.frac := by
  have hnext := head_expText n hr
  by_cases hf : n.frac = []
  · have hft : Numeral.fracText n.frac = [] := by simp [Numeral.fracText, hf]
    rw [hft, List.nil_append]
    cases hxr : Numeral.expText n.exp ++ r with
    | nil => rfl
    | cons c r' => exact fraction_of_ne (hnext c r' hxr).2
  · have hft : Numeral.fracText n.frac = 0x2E :: n.frac := by simp [Numeral.fracText, hf]
    rw [hft]
    simp only [List.cons_append, fraction,
      takeWhile_isDigit n.frac_digits fun c r' h => (hnext c r' h).1]
    simp [hf]

theorem numberText_text : numberText (n.text ++ r) = n.text := by
  have hwhole : (n.whole ++ (Numeral.fracText n.frac ++ (Numeral.expText n.exp ++ r))).takeWhile
      Text.isDigit = n.whole := by
    refine takeWhile_isDigit n.whole_digits fun c r' h => ?_
    cases hft : Numeral.fracText n.frac ++ Numeral.expText n.exp with
    | nil =>
      rw [← List.append_assoc, hft, List.nil_append] at h
      exact (hr c r' h).1
    | cons c' r'' =>
      rw [← List.append_assoc, hft, List.cons_append] at h
      obtain ⟨hcc, -⟩ := List.cons.inj h
      rcases Numeral.head_tail n c' r'' hft with h1 | h1 <;> rw [← hcc, h1] <;> decide
  have hsplit : n.text ++ r =
      n.whole ++ (Numeral.fracText n.frac ++ (Numeral.expText n.exp ++ r)) := by
    simp [Numeral.text]
  have hdrop : (n.whole ++ (Numeral.fracText n.frac ++ (Numeral.expText n.exp ++ r))).drop
      (n.whole.length + (Numeral.fracText n.frac).length) = Numeral.expText n.exp ++ r := by
    rw [← List.append_assoc, ← List.length_append, List.drop_left]
  unfold numberText
  dsimp only
  rw [hsplit, hwhole, List.drop_left, fraction_fracText n hr, hdrop, exponent_expText n hr]
  rfl

end

/-- Scanning the text of a finite non-negative double, followed by a delimiter, takes the
text whole. -/
theorem numberText_render (L : FloatLayout) {x : Binary64} (hx : x.exponentField < 2047)
    (hs : x.signBit = false) {r : Text} (hr : EndsNumber r) :
    numberText (x.render L ++ r) = x.render L := by
  obtain ⟨n, htext, -, -⟩ := Binary64.render_finite L hx
  rw [hs, if_neg Bool.false_ne_true, List.nil_append] at htext
  rw [htext, numberText_text n hr]

end Token

namespace Expr

open Reading

theorem number_text (n : Numeral) (h : n.frac ≠ [] ∨ n.exp ≠ none) :
    number n.text = .ok (.float (ofDecimal false n.value.digits n.value.exp)) := by
  have hany : n.text.any (fun c => c = 0x2E || c = 0x65 || c = 0x45) = true := by
    refine List.any_eq_true.2 ?_
    rcases h with hf | hx
    · refine ⟨0x2E, ?_, by decide⟩
      simp [Numeral.text, Numeral.fracText, hf]
    · obtain ⟨e, he⟩ := Option.ne_none_iff_exists'.1 hx
      refine ⟨0x65, ?_, by decide⟩
      simp [Numeral.text, Numeral.expText, he]
  have hread := readFloat?_text n false
  rw [if_neg Bool.false_ne_true, List.nil_append] at hread
  unfold number
  rw [if_pos hany, hread]
  rfl

/-- The text of a finite non-negative double is a literal of that double. -/
theorem number_render (L : FloatLayout) {x : Binary64} (hx : x.exponentField < 2047)
    (hs : x.signBit = false) : number (x.render L) = .ok (.float x) := by
  obtain ⟨n, htext, hshape, hread⟩ := Binary64.render_finite L hx
  rw [hs, if_neg Bool.false_ne_true, List.nil_append] at htext
  rw [htext, number_text n hshape, hread, ← hs, Binary64.ofFields_fields]

end Expr

end Templating
