import Templating.Proofs.ConstantFormula
/-!
# JSON text read back

The compact JSON text of JSON data reads back as the data (`Value.JsonData.write_readsAs`),
and so the `json` builtin undoes the `string` builtin on arrays and objects, given room on
the host's stack (`json_string_round_trip`).

JSON data (`Value.JsonData`) is what JSON text names faithfully: null, booleans, integers
within the digit limit, finite doubles, texts of Unicode scalar values (`Text.Scalar`),
lists, and objects with distinct keys. A text is written as its code points, each as
itself, as a backslash and a letter, or as `\u` escapes, a code point beyond the Basic
Multilingual Plane as a surrogate pair; the reader joins the pair again, and reads a lone
escape that is no surrogate as itself (`Json.stringBody_escapeCodePoint`). Numbers are
written without a leading zero (`Text.decimal_head`, `Binary64.render_numeral`), so the
reader takes their text whole, as an integer when there is no point and no exponent
(`Json.number?_numeral`).

A value is read back wherever its text stands (`Json.ReadsAs`): followed by anything that
may end a value, inside enough open containers that its nesting fits under the reader's
limit, with fuel for each of its code points. The host's frames for turning data into
plain data (`Value.nativeFrames`), two per level of nesting, measure that nesting.

Turning the data into text comes first, and it needs two frames per level on the host's
stack below the frame that shows it. Data that nests too deeply for that fails in
comparison before any text is read (`json_string_deep_list`).

Main statements:

    Scalar s → stringBody (s.flatMap escapeCodePoint ++ '"' :: r) = ok (s, r)
                                                                  (stringBody_flatMap)
    v.JsonData → ∃ t, write compact v = some t ∧ ReadsAs t v       (JsonData.write_readsAs)
    v.JsonData → v.nativeFrames ≤ 2 * limit → readWithin limit (write compact v) = ok v
                                                                  (JsonData.readWithin_write)
    e ↦ x, x.JsonData, x an array or object →
      json(string(e)) ↦ if d + 7 + x.nativeFrames ≤ Stack.limit then x else the stack
      failure in comparison                                        (json_string_round_trip)
-/

namespace Templating

open Reading

/-! ## Digits -/

namespace Reading

theorem digitsValue_cons (c : Nat) (w : Text) :
    digitsValue (c :: w) = (c - 0x30) * Nat.pow 10 w.length + digitsValue w := by
  rw [← List.singleton_append, digitsValue_append]
  simp [digitsValue]

theorem digitsValue_lt {ds : Text} (h : ∀ c ∈ ds, Text.isAsciiDigit c = true) :
    digitsValue ds < Nat.pow 10 ds.length := by
  induction ds with
  | nil => decide
  | cons c w ih =>
    have hc : c ≤ 0x39 := by
      have := h c (List.mem_cons_self ..)
      simp only [Text.isAsciiDigit, Bool.and_eq_true, decide_eq_true_eq] at this
      exact this.2
    have hw := ih fun d hd => h d (List.mem_cons_of_mem _ hd)
    have : (c - 0x30) * Nat.pow 10 w.length ≤ 9 * Nat.pow 10 w.length :=
      Nat.mul_le_mul_right _ (by omega)
    rw [digitsValue_cons, List.length_cons]
    simp only [Nat.pow_eq, Nat.pow_succ] at *
    omega

end Reading

namespace Text

theorem decimal_lead {m : Nat} {w : Text} (h : decimal m = 0x30 :: w) : w = [] := by
  rcases Nat.eq_zero_or_pos m with rfl | hm
  · have h0 : decimal 0 = [0x30] := by decide
    rw [h0] at h
    exact (List.cons.inj h).2.symm
  · have hval : digitsValue w = m := by
      rw [← digitsValue_decimal m, h, digitsValue_cons]
      simp
    have hlow := pow_length_le (Nat.pos_iff_ne_zero.1 hm)
    rw [h, List.length_cons, Nat.add_sub_cancel] at hlow
    have hhigh := digitsValue_lt fun d hd =>
      isAsciiDigit_of_mem_decimal (n := m) (by rw [h]; exact List.mem_cons_of_mem _ hd)
    omega

theorem decimal_head {m : Nat} (hm : 0 < m) :
    ∃ c u, decimal m = c :: u ∧ 0x31 ≤ c ∧ c ≤ 0x39 := by
  obtain ⟨c, u, hcu⟩ := List.exists_cons_of_ne_nil (decimal_ne_nil m)
  have hc := isAsciiDigit_of_mem_decimal (n := m) (c := c) (by rw [hcu]; exact List.mem_cons_self ..)
  simp only [isAsciiDigit, Bool.and_eq_true, decide_eq_true_eq] at hc
  refine ⟨c, u, hcu, ?_, hc.2⟩
  by_contra h0
  obtain rfl : c = 0x30 := by omega
  obtain rfl := decimal_lead hcu
  have := digitsValue_decimal m
  rw [hcu] at this
  simp [digitsValue] at this
  omega

end Text

/-! ## Doubles without a leading zero -/

namespace Binary64

theorem shortest_digits_pos {x : Binary64} (hx : x.exponentField < 2047) (hmag : 0 < x.magnitude) :
    0 < x.shortest.digits := by
  have hr := rounds_shortest hx hmag
  have hden := Decimal.den_pos x.shortest
  have hgap := x.gapBelow_le
  have hscale := pow_scale_le_magnitude hmag
  refine Nat.pos_of_ne_zero fun h0 => ?_
  have hnum : x.shortest.num = 0 := by simp [Decimal.num, h0]
  rw [hnum] at hr
  have hlow : 2 * x.magnitude * x.shortest.den ≤ x.gapBelow * x.shortest.den := by
    unfold Rounds at hr
    split at hr <;> omega
  have := Nat.le_of_mul_le_mul_right hlow hden
  omega

theorem layDigits_head (L : FloatLayout) (c : Nat) (u : Text) (point : Int) :
    ∃ v, L.layDigits (c :: u) point = c :: v ∨ L.layDigits (c :: u) point = 0x30 :: 0x2E :: v := by
  have hzero : Text.ofString "0." = [0x30, 0x2E] := by decide
  unfold FloatLayout.layDigits
  split
  · split
    · exact ⟨_, .inr (by rw [hzero]; rfl)⟩
    · split
      · obtain ⟨p, hp⟩ : ∃ p, point.toNat = p + 1 := ⟨point.toNat - 1, by omega⟩
        exact ⟨_, .inl (by rw [hp]; rfl)⟩
      · exact ⟨_, .inl rfl⟩
  · exact ⟨_, .inl rfl⟩

/-- The text of a finite double, after its sign, starts with a non-zero digit or with
`0.`. -/
theorem render_head (L : FloatLayout) {x : Binary64} (hx : x.exponentField < 2047) :
    ∃ c u, x.render L = (if x.signBit then [0x2D] else []) ++ c :: u ∧
      ((0x31 ≤ c ∧ c ≤ 0x39) ∨ (c = 0x30 ∧ u.head? = some 0x2E)) := by
  unfold render
  rw [shape_of_lt hx]
  dsimp only
  split
  · next hm => cases hm
  · next hm => cases hm
  · exact ⟨0x30, [0x2E, 0x30], by rw [show Text.ofString "0.0" = [0x30, 0x2E, 0x30] by decide],
      .inr ⟨rfl, rfl⟩⟩
  · next hne hm =>
    have hmag : 0 < x.magnitude :=
      Nat.pos_of_ne_zero fun h0 => hne (by rw [← (Shape.finite.inj hm).2, h0])
    obtain ⟨c, u, hcu, hc⟩ := Text.decimal_head (shortest_digits_pos hx hmag)
    rw [hcu]
    obtain ⟨v, hv | hv⟩ := layDigits_head L c u (x.shortest.exp + (c :: u).length)
    · exact ⟨c, v, by rw [hv], .inl hc⟩
    · exact ⟨0x30, 0x2E :: v, by rw [hv], .inr ⟨rfl, rfl⟩⟩

/-- The text of a finite double is its sign and number text with no leading zero and with
a point or an exponent. -/
theorem render_numeral (L : FloatLayout) {x : Binary64} (hx : x.exponentField < 2047) :
    ∃ n : Numeral, x.render L = (if x.signBit then [0x2D] else []) ++ n.text ∧
      (n.frac ≠ [] ∨ n.exp ≠ none) ∧ (∀ w, n.whole = 0x30 :: w → w = []) := by
  obtain ⟨n, htext, hshape, -⟩ := render_finite L hx
  obtain ⟨c, u, hcu, hc⟩ := render_head L hx
  have hn : n.text = c :: u := List.append_cancel_left (htext.symm.trans hcu)
  refine ⟨n, htext, hshape, fun w hw => ?_⟩
  have hwu : c :: u = 0x30 :: (w ++ (Numeral.fracText n.frac ++ Numeral.expText n.exp)) := by
    rw [← hn]
    simp [Numeral.text, hw]
  obtain ⟨rfl, rfl⟩ := List.cons.inj hwu
  rcases hc with hc | ⟨-, hpoint⟩
  · omega
  cases w with
  | nil => rfl
  | cons d w' =>
    have hd := n.whole_digits d (by simp [hw])
    simp only [List.cons_append, List.head?_cons, Option.some.injEq] at hpoint
    subst hpoint
    simp [Text.isAsciiDigit] at hd

end Binary64

/-! ## Texts of scalar values -/

namespace Text

/-- Every code point of the text is a Unicode scalar value: below `0x110000` and not a
surrogate. -/
def Scalar (s : Text) : Prop := ∀ c ∈ s, c < 0x110000 ∧ (c < 0xD800 ∨ 0xDFFF < c)

instance (s : Text) : Decidable s.Scalar :=
  inferInstanceAs (Decidable (∀ c ∈ s, c < 0x110000 ∧ (c < 0xD800 ∨ 0xDFFF < c)))

theorem length_hex (w n : Nat) : (hex w n).length = w := by
  induction w generalizing n with
  | zero => rfl
  | succ w ih => simp [hex, ih]

end Text

namespace Json

theorem length_escapeCodePoint_pos (c : Nat) : 0 < (escapeCodePoint c).length := by
  rcases escapeCodePoint_shape c with ⟨h, -⟩ | ⟨-, d, h, -⟩ | ⟨-, h⟩ | ⟨-, h⟩ <;>
    simp [h, unicodeEscape_eq]

theorem length_le_flatMap (s : Text) : s.length ≤ (s.flatMap escapeCodePoint).length := by
  induction s with
  | nil => simp
  | cons c s ih =>
    have := length_escapeCodePoint_pos c
    simp only [List.flatMap_cons, List.length_append, List.length_cons]
    omega

theorem escapeCodePoint_short :
    escapeCodePoint 0x22 = [0x5C, 0x22] ∧ escapeCodePoint 0x5C = [0x5C, 0x5C] ∧
    escapeCodePoint 0x08 = [0x5C, 0x62] ∧ escapeCodePoint 0x0C = [0x5C, 0x66] ∧
    escapeCodePoint 0x0A = [0x5C, 0x6E] ∧ escapeCodePoint 0x0D = [0x5C, 0x72] ∧
    escapeCodePoint 0x09 = [0x5C, 0x74] := by
  decide

theorem unicodeEscape?_hex {c : Nat} (hc : c < 0x10000) (hs : c < 0xD800 ∨ 0xDBFF < c)
    {rest : Text} (hr : rest ≠ []) (doc : Text) (upos : Nat) :
    unicodeEscape? doc (Text.hex 4 c ++ rest) upos = .ok (c, rest, upos + 5) := by
  have hlen : ¬ (Text.hex 4 c ++ rest).length ≤ 4 := by
    have := List.length_pos_iff.2 hr
    simp [Text.length_hex]
    omega
  have htake : (Text.hex 4 c ++ rest).take 4 = Text.hex 4 c := by simp [Text.length_hex]
  have hdrop : (Text.hex 4 c ++ rest).drop 4 = rest := by simp [Text.length_hex]
  unfold unicodeEscape?
  rw [if_neg hlen, htake, Text.hex4?_hex hc]
  dsimp only
  rw [hdrop, if_neg (by omega)]

theorem unicodeEscape?_pair {hi lo : Nat} (hhi : 0xD800 ≤ hi ∧ hi ≤ 0xDBFF)
    (hlo : 0xDC00 ≤ lo ∧ lo ≤ 0xDFFF) {rest : Text} (hr : rest ≠ []) (doc : Text) (upos : Nat) :
    unicodeEscape? doc (Text.hex 4 hi ++ 0x5C :: 0x75 :: (Text.hex 4 lo ++ rest)) upos =
      .ok (0x10000 + (hi - 0xD800) * 0x400 + (lo - 0xDC00), rest, upos + 11) := by
  have hlen : ¬ (Text.hex 4 hi ++ 0x5C :: 0x75 :: (Text.hex 4 lo ++ rest)).length ≤ 4 := by
    simp [Text.length_hex]
  have htake : (Text.hex 4 hi ++ 0x5C :: 0x75 :: (Text.hex 4 lo ++ rest)).take 4 =
      Text.hex 4 hi := by
    simp [Text.length_hex]
  have hdrop : (Text.hex 4 hi ++ 0x5C :: 0x75 :: (Text.hex 4 lo ++ rest)).drop 4 =
      0x5C :: 0x75 :: (Text.hex 4 lo ++ rest) := by
    simp [Text.length_hex]
  have hafter : (0x5C :: 0x75 :: (Text.hex 4 lo ++ rest)).length > 6 := by
    have := List.length_pos_iff.2 hr
    simp [Text.length_hex]
    omega
  have hlow : ((0x5C :: 0x75 :: (Text.hex 4 lo ++ rest)).drop 2).take 4 = Text.hex 4 lo := by
    simp [Text.length_hex]
  have hrest : (0x5C :: 0x75 :: (Text.hex 4 lo ++ rest)).drop 6 = rest := by
    simp [Text.length_hex]
  unfold unicodeEscape?
  rw [if_neg hlen, htake, Text.hex4?_hex (by omega)]
  dsimp only
  rw [hdrop, if_pos ⟨hhi.1, hhi.2, hafter, rfl⟩, hlow, Text.hex4?_hex (by omega)]
  dsimp only
  rw [if_pos hlo, hrest]

section Strings

variable (doc : Text) (start : Nat)

theorem stringBody_unicode (fuel : Nat) (acc digits : Text) (pos : Nat) :
    stringBody doc start (fuel + 1) acc (0x5C :: 0x75 :: digits) pos =
      (unicodeEscape? doc digits (pos + 1)).bind fun r =>
        stringBody doc start fuel (r.1 :: acc) r.2.1 r.2.2 := rfl

theorem stringBody_escapeCodePoint {c : Nat} (hc : c < 0x110000 ∧ (c < 0xD800 ∨ 0xDFFF < c))
    {rest : Text} (hr : rest ≠ []) (fuel : Nat) (acc : Text) (pos : Nat) :
    ∃ pos', stringBody doc start (fuel + 1) acc (escapeCodePoint c ++ rest) pos =
      stringBody doc start fuel (c :: acc) rest pos' := by
  obtain ⟨e1, e2, e3, e4, e5, e6, e7⟩ := escapeCodePoint_short
  by_cases hshort : c = 0x22 ∨ c = 0x5C ∨ c = 0x08 ∨ c = 0x0C ∨ c = 0x0A ∨ c = 0x0D ∨ c = 0x09
  · rcases hshort with rfl | rfl | rfl | rfl | rfl | rfl | rfl
    · exact ⟨pos + 2, by rw [e1]; rfl⟩
    · exact ⟨pos + 2, by rw [e2]; rfl⟩
    · exact ⟨pos + 2, by rw [e3]; rfl⟩
    · exact ⟨pos + 2, by rw [e4]; rfl⟩
    · exact ⟨pos + 2, by rw [e5]; rfl⟩
    · exact ⟨pos + 2, by rw [e6]; rfl⟩
    · exact ⟨pos + 2, by rw [e7]; rfl⟩
  obtain ⟨h1, h2, h3, h4, h5, h6, h7⟩ : c ≠ 0x22 ∧ c ≠ 0x5C ∧ c ≠ 0x08 ∧ c ≠ 0x0C ∧ c ≠ 0x0A ∧
      c ≠ 0x0D ∧ c ≠ 0x09 := by omega
  rw [escapeCodePoint, if_neg h1, if_neg h2, if_neg h3, if_neg h4, if_neg h5, if_neg h6,
    if_neg h7]
  by_cases hp : 0x20 ≤ c ∧ c ≤ 0x7E
  · rw [if_pos hp]
    exact ⟨pos + 1, by simp only [List.singleton_append, stringBody, if_neg h1, if_neg h2,
      if_neg (show ¬ c ≤ 0x1F by omega)]⟩
  rw [if_neg hp]
  by_cases hb : c < 0x10000
  · rw [if_pos hb, unicodeEscape_eq, List.cons_append, List.cons_append,
      stringBody_unicode, unicodeEscape?_hex hb (by omega) hr]
    exact ⟨pos + 6, rfl⟩
  · rw [if_neg hb, unicodeEscape_eq, unicodeEscape_eq, List.append_assoc, List.cons_append,
      List.cons_append, stringBody_unicode, List.cons_append, List.cons_append,
      unicodeEscape?_pair (by omega) (by omega) hr]
    refine ⟨pos + 12, ?_⟩
    have hcode : 0x10000 + (0xD800 + (c - 0x10000) / 0x400 - 0xD800) * 0x400 +
        (0xDC00 + (c - 0x10000) % 0x400 - 0xDC00) = c := by omega
    rw [hcode]
    rfl

/-- Reading the written body of a text of scalar values and its closing quote gives the
text back, given a step of fuel for each code point and one for the quote. -/
theorem stringBody_flatMap {s : Text} (hs : s.Scalar) (r : Text) :
    ∀ fuel acc pos, s.length < fuel → ∃ p,
      stringBody doc start fuel acc (s.flatMap escapeCodePoint ++ 0x22 :: r) pos =
        .ok (acc.reverse ++ s, r, p) := by
  induction s with
  | nil =>
    intro fuel acc pos hfuel
    obtain ⟨f, rfl⟩ := Nat.exists_eq_add_of_lt hfuel
    exact ⟨pos + 1, by simp [stringBody]⟩
  | cons c s ih =>
    intro fuel acc pos hfuel
    obtain ⟨f, rfl⟩ : ∃ f, fuel = f + 1 := Nat.exists_eq_add_one.2 (by omega)
    have hs' : Text.Scalar s := fun c' hc' => hs c' (List.mem_cons_of_mem _ hc')
    obtain ⟨p, hp⟩ := stringBody_escapeCodePoint doc start (hs c (List.mem_cons_self ..))
      (show s.flatMap escapeCodePoint ++ 0x22 :: r ≠ [] by simp) f acc pos
    obtain ⟨q, hq⟩ := ih hs' f (c :: acc) p (by simp at hfuel; omega)
    refine ⟨q, ?_⟩
    rw [List.flatMap_cons, List.append_assoc, hp, hq]
    simp

end Strings

/-! ## Numbers -/

theorem fractionPart_of_ne {c : Nat} (h : c ≠ 0x2E) (r : Text) : fractionPart (c :: r) = [] := by
  unfold fractionPart
  split <;> simp_all

theorem exponentPart_of_ne {c : Nat} (h1 : c ≠ 0x65) (h2 : c ≠ 0x45) (r : Text) :
    exponentPart (c :: r) = [] := by
  simp [exponentPart, h1, h2]

section Numbers

variable (n : Numeral) {r : Text} (hr : Token.EndsValue r)
include hr

theorem exponentPart_expText : exponentPart (Numeral.expText n.exp ++ r) = Numeral.expText n.exp := by
  cases hx : n.exp with
  | none =>
    cases r with
    | nil => rfl
    | cons c r' =>
      have hc := hr c r' rfl
      exact exponentPart_of_ne (by omega) (by omega) r'
  | some e =>
    obtain ⟨neg, ds⟩ := e
    obtain ⟨hne, hds⟩ := n.exp_digits _ hx
    obtain ⟨d, ds', rfl⟩ := List.exists_cons_of_ne_nil hne
    have hcut : (d :: (ds' ++ r)).takeWhile isDigit = d :: ds' :=
      (Numeral.takeWhile_digits hds r fun c r' h => by
        rcases hr c r' h with rfl | rfl | rfl <;> rfl).1
    simp only [Numeral.expText, List.cons_append, exponentPart]
    cases neg <;> simp [hcut]

theorem head_expText : ∀ c r', Numeral.expText n.exp ++ r = c :: r' → isDigit c = false ∧ c ≠ 0x2E := by
  intro c r' h
  cases hx : n.exp with
  | none =>
    rw [hx] at h
    rcases hr c r' h with rfl | rfl | rfl <;> decide
  | some e =>
    rw [hx] at h
    simp only [Numeral.expText, List.cons_append, List.cons.injEq] at h
    rw [← h.1]
    decide

theorem fractionPart_fracText :
    fractionPart (Numeral.fracText n.frac ++ (Numeral.expText n.exp ++ r)) = Numeral.fracText n.frac := by
  have hnext := head_expText n hr
  by_cases hf : n.frac = []
  · rw [show Numeral.fracText n.frac = [] by simp [Numeral.fracText, hf], List.nil_append]
    cases hxr : Numeral.expText n.exp ++ r with
    | nil => rfl
    | cons c r' => exact fractionPart_of_ne (hnext c r' hxr).2 r'
  · obtain ⟨d, fs, hfs⟩ := List.exists_cons_of_ne_nil hf
    have hd : isDigit d = true := n.frac_digits d (by simp [hfs])
    have hcut : (fs ++ (Numeral.expText n.exp ++ r)).takeWhile isDigit = fs :=
      (Numeral.takeWhile_digits (fun c hc => n.frac_digits c (by simp [hfs, hc])) _
        fun c r' h => (hnext c r' h).1).1
    rw [show Numeral.fracText n.frac = 0x2E :: d :: fs by simp [Numeral.fracText, hfs]]
    simp [fractionPart, hd, hcut]

/-- The digits that number text followed by a delimiter starts with are its whole digits:
after them comes a point, an exponent or the delimiter. -/
theorem takeWhile_text : (n.text ++ r).takeWhile isDigit = n.whole := by
  have hsplit : n.text ++ r = n.whole ++ (Numeral.fracText n.frac ++ (Numeral.expText n.exp ++ r)) := by
    simp [Numeral.text]
  rw [hsplit]
  refine (Numeral.takeWhile_digits n.whole_digits _ fun d r' h => ?_).1
  cases hft : Numeral.fracText n.frac with
  | nil =>
    rw [hft, List.nil_append] at h
    exact (head_expText n hr d r' h).1
  | cons d' r'' =>
    rw [hft, List.cons_append] at h
    obtain ⟨rfl, -⟩ := List.cons.inj h
    rcases Numeral.head_tail n d' (r'' ++ Numeral.expText n.exp) (by rw [hft]; rfl) with h1 | h1 <;>
      rw [h1] <;> rfl

/-- Number text with no leading zero, signed or not and followed by a delimiter, is read
whole: as an integer when it has neither a fraction nor an exponent, as a double
otherwise. -/
theorem number?_numeral (hlead : ∀ w, n.whole = 0x30 :: w → w = []) (neg : Bool) (pos : Nat) :
    number? ((if neg then [0x2D] else []) ++ n.text ++ r) pos =
      if n.frac = [] ∧ n.exp = none then
        (if digitLimit < n.whole.length then some (.error (.tooManyDigits n.whole.length))
        else some (.ok (.int (if neg then -(digitsValue n.whole : Int) else digitsValue n.whole),
          r, pos + ((if neg then [0x2D] else []) ++ n.text).length)))
      else some (.ok (.float ((readFloat? ((if neg then [0x2D] else []) ++ n.text)).getD
        Binary64.nan), r, pos + ((if neg then [0x2D] else []) ++ n.text).length)) := by
  obtain ⟨c, w, hw⟩ := List.exists_cons_of_ne_nil n.whole_ne
  have hc : 0x30 ≤ c ∧ c ≤ 0x39 := by
    simpa [Text.isAsciiDigit] using n.whole_digits c (by simp [hw])
  have htext : n.text ++ r = c :: (w ++ (Numeral.fracText n.frac ++ (Numeral.expText n.exp ++ r))) := by
    simp [Numeral.text, hw]
  have hcut : (w ++ (Numeral.fracText n.frac ++ (Numeral.expText n.exp ++ r))).takeWhile isDigit = w := by
    have h := takeWhile_text n hr
    rw [htext, hw, List.takeWhile_cons_of_pos (by simp [isDigit]; omega)] at h
    exact List.cons.inj h |>.2
  unfold number?
  split
  next minus r1 hm =>
  have hsign : minus = (if neg then [0x2D] else []) ∧ r1 = n.text ++ r := by
    rw [htext]
    cases neg
    · simp only [Bool.false_eq_true, if_false, List.nil_append, htext] at hm ⊢
      split at hm
      · next r' h => simp only [List.cons.injEq] at h; omega
      · simp only [Prod.mk.injEq] at hm
        exact ⟨hm.1.symm, hm.2.symm⟩
    · simp only [if_true, List.cons_append, List.nil_append, htext] at hm ⊢
      simp only [Prod.mk.injEq] at hm
      exact ⟨hm.1.symm, hm.2.symm⟩
  obtain ⟨rfl, rfl⟩ := hsign
  have hdrop : (n.text ++ r).drop n.whole.length = Numeral.fracText n.frac ++ (Numeral.expText n.exp ++ r) := by
    simp [Numeral.text]
  have hsplit : (if neg then [0x2D] else []) ++ n.whole ++ Numeral.fracText n.frac ++ Numeral.expText n.exp =
      (if neg then [0x2D] else []) ++ n.text := by
    simp [Numeral.text]
  have hwne : n.whole.isEmpty = false := List.isEmpty_eq_false_iff.2 n.whole_ne
  have hfe : Numeral.fracText n.frac = [] ↔ n.frac = [] := by
    unfold Numeral.fracText; split <;> simp_all
  have hee : Numeral.expText n.exp = [] ↔ n.exp = none := by
    cases n.exp <;> simp [Numeral.expText]
  -- the whole digits, as the reader cuts them, are the numeral's: a leading zero stands alone
  split
  case h_3 h => simp [htext] at h
  case' h_1 tail h =>
    rw [htext] at h
    obtain ⟨rfl, -⟩ := List.cons.inj h
    obtain rfl := hlead w hw
    rw [← hw]
  case' h_2 c' rest hne h =>
    rw [htext] at h
    obtain ⟨rfl, rfl⟩ := List.cons.inj h
    have h48 : c ≠ 0x30 := hne
    have hdigit : (decide (0x31 ≤ c) && decide (c ≤ 0x39)) = true := by
      simp only [Bool.and_eq_true, decide_eq_true_eq]
      omega
    rw [if_pos hdigit, hcut, ← hw]
  all_goals
    simp only [hwne, hdrop, fractionPart_fracText n hr, List.drop_left, exponentPart_expText n hr,
      hsplit, Bool.false_eq_true, if_false, Bool.and_eq_true, List.isEmpty_iff, hfe, hee]
    cases neg <;> simp

end Numbers

theorem number?_int {m : Int} (hm : m.natAbs < Nat.pow 10 digitLimit) {r : Text}
    (hr : Token.EndsValue r) (pos : Nat) :
    ∃ p, number? ((if m < 0 then [0x2D] else []) ++ Text.decimal m.natAbs ++ r) pos =
      some (.ok (.int m, r, p)) := by
  have hnum := number?_numeral (Token.decimalNumeral m.natAbs) hr (fun _ hw => Text.decimal_lead hw)
    (decide (m < 0)) pos
  have hlen : ¬ digitLimit < (Text.decimal m.natAbs).length := by
    rw [Nat.not_lt, Text.length_decimal_le_iff (by decide)]
    exact hm
  have hval : (if m < 0 then -(m.natAbs : Int) else m.natAbs) = m := by
    split <;> omega
  simp only [Token.decimalNumeral, Numeral.text, Numeral.fracText, Numeral.expText, if_true,
    List.append_nil, and_self, hlen, if_false, decide_eq_true_eq, digitsValue_decimal, hval] at hnum
  exact ⟨_, hnum⟩

theorem number?_render {x : Binary64} (hx : x.exponentField < 2047) {r : Text}
    (hr : Token.EndsValue r) (pos : Nat) :
    ∃ p, number? (x.render FloatLayout.json ++ r) pos = some (.ok (.float x, r, p)) := by
  obtain ⟨n, htext, hshape, hlead⟩ := Binary64.render_numeral FloatLayout.json hx
  have hread := Binary64.readFloat?_render FloatLayout.json hx
  rw [htext] at hread ⊢
  rw [number?_numeral n hr hlead x.signBit pos, if_neg (by tauto), hread]
  exact ⟨_, rfl⟩

/-! ## Values -/

theorem keywords_text :
    Text.ofString "null" = [0x6E, 0x75, 0x6C, 0x6C] ∧ Text.ofString "true" = [0x74, 0x72, 0x75, 0x65] ∧
    Text.ofString "false" = [0x66, 0x61, 0x6C, 0x73, 0x65] ∧ Text.ofString "NaN" = [0x4E, 0x61, 0x4E] ∧
    Text.ofString "Infinity" = [0x49, 0x6E, 0x66, 0x69, 0x6E, 0x69, 0x74, 0x79] ∧
    Text.ofString "-Infinity" = [0x2D, 0x49, 0x6E, 0x66, 0x69, 0x6E, 0x69, 0x74, 0x79] := by
  decide

theorem compact_seps : Layout.compact.itemSep = [0x2C] ∧ Layout.compact.keySep = [0x3A] := by
  decide

/-- The text starts with a code point that can open a value: printable ASCII from the quote
to the left brace, but no closing bracket, and so neither a space nor a byte order mark. -/
def OpensValue (t : Text) : Prop := ∃ c u, t = c :: u ∧ 0x22 ≤ c ∧ c ≤ 0x7B ∧ c ≠ 0x5D

theorem OpensValue.skipSpace {t : Text} (h : OpensValue t) (r : Text) (pos : Nat) :
    skipSpace (t ++ r) pos = (t ++ r, pos) := by
  obtain ⟨c, u, rfl, h1, -, -⟩ := h
  have hc : isSpace c = false := by simp [isSpace]; omega
  simp [Json.skipSpace, hc]

theorem OpensValue.signed (p : Prop) [Decidable p] {c : Nat} (u : Text) (hc : 0x30 ≤ c ∧ c ≤ 0x39) :
    OpensValue ((if p then [0x2D] else []) ++ c :: u) := by
  by_cases hp : p
  · rw [if_pos hp]
    exact ⟨0x2D, c :: u, rfl, by decide⟩
  · rw [if_neg hp]
    exact ⟨c, u, rfl, by omega⟩

theorem OpensValue.append {t : Text} (h : OpensValue t) (u : Text) : OpensValue (t ++ u) := by
  obtain ⟨c, w, rfl, hc⟩ := h
  exact ⟨c, w ++ u, rfl, hc⟩

theorem skipSpace_delim {c : Nat} (hc : c = 0x2C ∨ c = 0x3A ∨ c = 0x5D ∨ c = 0x7D) (r : Text)
    (pos : Nat) : skipSpace (c :: r) pos = (c :: r, pos) := by
  have : isSpace c = false := by rcases hc with rfl | rfl | rfl | rfl <;> rfl
  simp [Json.skipSpace, this]

/-- Text `t` reads back as `v` wherever it stands: followed by anything that may end a
value, inside open containers that leave room under the limit for the nesting of `v` (two
of its native frames per level), with a step of fuel for each code point. -/
def ReadsAs (t : Text) (v : Value) : Prop :=
  ∀ doc limit depth fuel r pos, Token.EndsValue r → 2 * depth + v.nativeFrames ≤ 2 * limit →
    t.length ≤ fuel → ∃ p, value doc limit depth fuel (t ++ r) pos = .ok (v, r, p)

section Values

variable (doc : Text) (limit depth : Nat)

theorem value_null (fuel : Nat) (r : Text) (pos : Nat) :
    value doc limit depth (fuel + 1) (Text.ofString "null" ++ r) pos = .ok (.null, r, pos + 4) := by
  obtain ⟨k1, k2, k3, k4, k5, k6⟩ := keywords_text
  rw [k1, value] <;> simp [k1, k2, k3, k4, k5, k6, Option.orElse]

theorem value_bool (b : Bool) (fuel : Nat) (r : Text) (pos : Nat) :
    ∃ p, value doc limit depth (fuel + 1) (Text.ofString (if b then "true" else "false") ++ r) pos =
      .ok (.bool b, r, p) := by
  obtain ⟨k1, k2, k3, k4, k5, k6⟩ := keywords_text
  cases b
  · exact ⟨pos + 5, by rw [if_neg Bool.false_ne_true, k3, value] <;>
      simp [k1, k2, k3, k4, k5, k6, Option.orElse]⟩
  · exact ⟨pos + 4, by rw [if_pos rfl, k2, value] <;> simp [k1, k2, k3, k4, k5, k6, Option.orElse]⟩

theorem value_number {c : Nat} {t : Text}
    (hc : (0x30 ≤ c ∧ c ≤ 0x39) ∨ (c = 0x2D ∧ ∃ d t', t = d :: t' ∧ 0x30 ≤ d ∧ d ≤ 0x39))
    {fuel pos : Nat} {res : Except ReadError (Value × Text × Nat)} (h : number? (c :: t) pos = some res) :
    value doc limit depth (fuel + 1) (c :: t) pos = res := by
  obtain ⟨k1, k2, k3, k4, k5, k6⟩ := keywords_text
  rw [value]
  · rcases hc with hc | ⟨rfl, d, t', rfl, hd⟩
    · have : c ≠ 0x6E ∧ c ≠ 0x74 ∧ c ≠ 0x66 ∧ c ≠ 0x4E ∧ c ≠ 0x49 ∧ c ≠ 0x2D := by omega
      simp [k1, k2, k3, k4, k5, k6, Option.orElse, this, h]
    · have : d ≠ 0x49 := by omega
      simp [k1, k2, k3, k4, k5, k6, Option.orElse, this, h]
  all_goals
    intro t' ht
    simp only [List.cons.injEq] at ht
    omega

theorem value_signed (p : Prop) [Decidable p] {c : Nat} {u : Text} (hc : 0x30 ≤ c ∧ c ≤ 0x39)
    {fuel pos : Nat} {res : Except ReadError (Value × Text × Nat)}
    (h : number? ((if p then [0x2D] else []) ++ c :: u) pos = some res) :
    value doc limit depth (fuel + 1) ((if p then [0x2D] else []) ++ c :: u) pos = res := by
  by_cases hp : p
  · rw [if_pos hp] at h ⊢
    exact value_number doc limit depth (.inr ⟨rfl, c, u, rfl, hc⟩) h
  · rw [if_neg hp] at h ⊢
    exact value_number doc limit depth (.inl hc) h

theorem quote_append (k r : Text) :
    quote k ++ r = 0x22 :: (k.flatMap escapeCodePoint ++ 0x22 :: r) := by
  simp [quote]

theorem value_quote {s : Text} (hs : s.Scalar) (fuel : Nat) (r : Text) (pos : Nat) :
    ∃ p, value doc limit depth (fuel + 1) (quote s ++ r) pos = .ok (.str s, r, p) := by
  have hlen := length_le_flatMap s
  obtain ⟨p, hp⟩ := stringBody_flatMap doc pos hs r
    ((s.flatMap escapeCodePoint ++ 0x22 :: r).length + 1) [] (pos + 1)
    (by simp only [List.length_append, List.length_cons]; omega)
  refine ⟨p, ?_⟩
  rw [quote_append, value, hp]
  rfl

theorem items_last {fuel : Nat} {acc : List Value} {t r : Text} {x : Value} {pos p : Nat}
    (hp : value doc limit depth fuel (t ++ 0x5D :: r) pos = .ok (x, 0x5D :: r, p)) :
    items doc limit depth (fuel + 1) acc (t ++ 0x5D :: r) pos =
      .ok (.list (acc.reverse ++ [x]), r, p + 1) := by
  rw [items, hp]
  simp only [bind, Except.bind, skipSpace_delim (c := 0x5D) (by decide), List.reverse_cons]

theorem items_next {fuel : Nat} {acc : List Value} {t u : Text} {x : Value} {pos p : Nat}
    (hu : OpensValue u) (hp : value doc limit depth fuel (t ++ 0x2C :: u) pos = .ok (x, 0x2C :: u, p)) :
    items doc limit depth (fuel + 1) acc (t ++ 0x2C :: u) pos =
      items doc limit depth fuel (x :: acc) u (p + 1) := by
  have hskip := hu.skipSpace [] (p + 1)
  rw [List.append_nil] at hskip
  rw [items, hp]
  simp only [bind, Except.bind, skipSpace_delim (c := 0x2C) (by decide), hskip]

theorem entries_last {k : Text} (hk : k.Scalar) {fuel : Nat} {acc : Entries} {t r : Text}
    {v : Value} (ht : OpensValue t)
    (hv : ∀ q, ∃ p, value doc limit depth fuel (t ++ 0x7D :: r) q = .ok (v, 0x7D :: r, p))
    (pos : Nat) :
    ∃ p, entries doc limit depth (fuel + 1) acc (quote k ++ 0x3A :: (t ++ 0x7D :: r)) pos =
      .ok (.object (Entries.set acc k v), r, p) := by
  have hlen := length_le_flatMap k
  obtain ⟨p1, hp1⟩ := stringBody_flatMap doc pos hk (0x3A :: (t ++ 0x7D :: r))
    ((k.flatMap escapeCodePoint ++ 0x22 :: 0x3A :: (t ++ 0x7D :: r)).length + 1) [] (pos + 1)
    (by simp only [List.length_append, List.length_cons]; omega)
  obtain ⟨p2, hp2⟩ := hv (p1 + 1)
  refine ⟨p2 + 1, ?_⟩
  rw [quote_append, entries, hp1]
  simp only [bind, Except.bind, List.reverse_nil, List.nil_append,
    skipSpace_delim (c := 0x3A) (by decide), ht.skipSpace, hp2,
    skipSpace_delim (c := 0x7D) (by decide)]

theorem entries_next {k : Text} (hk : k.Scalar) {fuel : Nat} {acc : Entries} {t u : Text}
    {v : Value} (ht : OpensValue t) (hu : OpensValue u)
    (hv : ∀ q, ∃ p, value doc limit depth fuel (t ++ 0x2C :: u) q = .ok (v, 0x2C :: u, p))
    (pos : Nat) :
    ∃ p, entries doc limit depth (fuel + 1) acc (quote k ++ 0x3A :: (t ++ 0x2C :: u)) pos =
      entries doc limit depth fuel (Entries.set acc k v) u p := by
  have hlen := length_le_flatMap k
  obtain ⟨p1, hp1⟩ := stringBody_flatMap doc pos hk (0x3A :: (t ++ 0x2C :: u))
    ((k.flatMap escapeCodePoint ++ 0x22 :: 0x3A :: (t ++ 0x2C :: u)).length + 1) [] (pos + 1)
    (by simp only [List.length_append, List.length_cons]; omega)
  obtain ⟨p2, hp2⟩ := hv (p1 + 1)
  have hskip := hu.skipSpace [] (p2 + 1)
  rw [List.append_nil] at hskip
  refine ⟨p2 + 1, ?_⟩
  rw [quote_append, entries, hp1]
  simp only [bind, Except.bind, List.reverse_nil, List.nil_append,
    skipSpace_delim (c := 0x3A) (by decide), ht.skipSpace, hp2,
    skipSpace_delim (c := 0x2C) (by decide), hskip]

end Values

theorem readsAs_signed (p : Prop) [Decidable p] {c : Nat} {u : Text} (hc : 0x30 ≤ c ∧ c ≤ 0x39)
    {v : Value} (hnum : ∀ r pos, Token.EndsValue r →
      ∃ q, number? ((if p then [0x2D] else []) ++ c :: u ++ r) pos = some (.ok (v, r, q))) :
    OpensValue ((if p then [0x2D] else []) ++ c :: u) ∧
      ReadsAs ((if p then [0x2D] else []) ++ c :: u) v := by
  refine ⟨OpensValue.signed p u hc, ?_⟩
  intro doc limit depth fuel r pos hr _ hfuel
  obtain ⟨f, rfl⟩ : ∃ f, fuel = f + 1 := ⟨fuel - 1, by simp at hfuel; omega⟩
  obtain ⟨q, hq⟩ := hnum r pos hr
  rw [List.append_assoc, List.cons_append] at hq
  refine ⟨q, ?_⟩
  rw [List.append_assoc, List.cons_append]
  exact value_signed doc limit depth p hc hq

theorem readsAs_items {xs : List Value}
    (ih : ∀ x ∈ xs, ∃ t, write Layout.compact x = some t ∧ OpensValue t ∧ ReadsAs t x)
    (hne : xs ≠ []) :
    ∃ t, writeItems Layout.compact xs = some t ∧ OpensValue t ∧
      ∀ doc limit depth fuel acc r pos, Token.EndsValue r →
        2 * depth + Value.nativeFramesItems xs ≤ 2 * limit → t.length + 1 ≤ fuel →
        ∃ p, items doc limit depth fuel acc (t ++ 0x5D :: r) pos =
          .ok (.list (acc.reverse ++ xs), r, p) := by
  induction xs with
  | nil => exact absurd rfl hne
  | cons x xs ihxs =>
    obtain ⟨a, ha, hoa, hra⟩ := ih x (List.mem_cons_self ..)
    cases xs with
    | nil =>
      refine ⟨a, by rw [writeItems, ha], hoa, ?_⟩
      intro doc limit depth fuel acc r pos hr hdepth hfuel
      obtain ⟨f, rfl⟩ : ∃ f, fuel = f + 1 := ⟨fuel - 1, by omega⟩
      simp only [Value.nativeFramesItems] at hdepth
      obtain ⟨p, hp⟩ := hra doc limit depth f (0x5D :: r) pos (Token.endsValue_cons (by decide) r)
        (by omega) (by omega)
      exact ⟨p + 1, items_last doc limit depth hp⟩
    | cons y ys =>
      obtain ⟨b, hb, hob, hrb⟩ :=
        ihxs (fun z hz => ih z (List.mem_cons_of_mem _ hz)) (List.cons_ne_nil _ _)
      refine ⟨a ++ 0x2C :: b, ?_, hoa.append _, ?_⟩
      · rw [writeItems.eq_3 _ _ _ (List.cons_ne_nil _ _), ha, hb, compact_seps.1]
        simp
      intro doc limit depth fuel acc r pos hr hdepth hfuel
      obtain ⟨f, rfl⟩ : ∃ f, fuel = f + 1 := ⟨fuel - 1, by omega⟩
      simp only [Value.nativeFramesItems] at hdepth
      simp only [List.length_append, List.length_cons] at hfuel
      obtain ⟨p, hp⟩ := hra doc limit depth f (0x2C :: (b ++ 0x5D :: r)) pos
        (Token.endsValue_cons (by decide) _) (by omega) (by omega)
      obtain ⟨q, hq⟩ := hrb doc limit depth f (x :: acc) r (p + 1) hr
        (by simp only [Value.nativeFramesItems] at hdepth ⊢; omega) (by omega)
      refine ⟨q, ?_⟩
      rw [List.append_assoc, List.cons_append,
        items_next doc limit depth (hob.append _) (List.cons_append .. ▸ hp), hq]
      simp

theorem readsAs_list {xs : List Value}
    (ih : ∀ x ∈ xs, ∃ t, write Layout.compact x = some t ∧ OpensValue t ∧ ReadsAs t x) :
    ∃ t, write Layout.compact (.list xs) = some t ∧ OpensValue t ∧ ReadsAs t (.list xs) := by
  cases xs with
  | nil =>
    refine ⟨[0x5B, 0x5D], rfl, ⟨0x5B, [0x5D], rfl, by decide⟩, ?_⟩
    intro doc limit depth fuel r pos hr hdepth hfuel
    obtain ⟨f, rfl⟩ : ∃ f, fuel = f + 1 := ⟨fuel - 1, by simp at hfuel; omega⟩
    have hd : ¬ limit ≤ depth := by
      simp only [Value.nativeFrames, Value.nativeFramesItems] at hdepth
      omega
    refine ⟨pos + 1 + 1, ?_⟩
    rw [List.cons_append, value, if_neg hd]
    simp only [List.cons_append, List.nil_append, skipSpace_delim (c := 0x5D) (by decide)]
  | cons x xs =>
    obtain ⟨t, ht, hot, hrt⟩ := readsAs_items ih (List.cons_ne_nil _ _)
    refine ⟨0x5B :: (t ++ [0x5D]), by rw [write, ht]; rfl, ⟨0x5B, _, rfl, by decide⟩, ?_⟩
    intro doc limit depth fuel r pos hr hdepth hfuel
    obtain ⟨f, rfl⟩ : ∃ f, fuel = f + 1 := ⟨fuel - 1, by simp at hfuel; omega⟩
    simp only [Value.nativeFrames] at hdepth
    simp only [List.length_cons, List.length_append] at hfuel
    have hd : ¬ limit ≤ depth := by omega
    obtain ⟨p, hp⟩ := hrt doc limit (depth + 1) f [] r (pos + 1) hr (by omega) (by omega)
    refine ⟨p, ?_⟩
    rw [List.cons_append, List.append_assoc, List.singleton_append, value, if_neg hd,
      hot.skipSpace]
    obtain ⟨c, u, rfl, -, -, hc⟩ := hot
    simp only
    split
    · next r' h =>
      simp only [List.cons_append, List.cons.injEq] at h
      exact absurd h.1 hc
    · exact hp

/-- The entries of an object with distinct keys of scalar values, whose values' texts read
back, read back as the object, after any entries already read with other keys. -/
theorem readsAs_entries {es : List (Text × Value)} (hkeys : ∀ e ∈ es, e.1.Scalar)
    (ih : ∀ e ∈ es, ∃ t, write Layout.compact e.2 = some t ∧ OpensValue t ∧ ReadsAs t e.2)
    (hne : es ≠ []) :
    ∃ t, writeEntries Layout.compact es = some t ∧ (∃ u, t = 0x22 :: u) ∧
      ∀ doc limit depth fuel acc r pos, Token.EndsValue r →
        (acc.map Prod.fst ++ es.map Prod.fst).Nodup →
        2 * depth + Value.nativeFramesEntries es ≤ 2 * limit → t.length + 1 ≤ fuel →
        ∃ p, entries doc limit depth fuel acc (t ++ 0x7D :: r) pos =
          .ok (.object (acc ++ es), r, p) := by
  induction es with
  | nil => exact absurd rfl hne
  | cons e es ihes =>
    obtain ⟨k, v⟩ := e
    have hk : k.Scalar := hkeys (k, v) (List.mem_cons_self ..)
    obtain ⟨a, ha, hoa, hra⟩ := ih (k, v) (List.mem_cons_self ..)
    dsimp only at ha hra
    have hlen := length_le_flatMap k
    have hset : ∀ acc : Entries, (acc.map Prod.fst ++ ((k, v) :: es).map Prod.fst).Nodup →
        Entries.set acc k v = acc ++ [(k, v)] := fun acc hnd =>
      Entries.set_of_not_mem (fun hmem =>
        (List.nodup_append.1 hnd).2.2 _ hmem _ (List.mem_cons_self ..) rfl) v
    cases es with
    | nil =>
      refine ⟨quote k ++ 0x3A :: a, ?_, ⟨_, quote_append k _⟩, ?_⟩
      · rw [writeEntries, ha, compact_seps.2]
        simp
      intro doc limit depth fuel acc r pos hr hnd hdepth hfuel
      obtain ⟨f, rfl⟩ : ∃ f, fuel = f + 1 := ⟨fuel - 1, by omega⟩
      simp only [Value.nativeFramesEntries] at hdepth
      simp only [List.length_append, List.length_cons, quote] at hfuel
      obtain ⟨p, hp⟩ := entries_last doc limit depth hk hoa (fun q => hra doc limit depth f
        (0x7D :: r) q (Token.endsValue_cons (by decide) r) (by omega) (by omega)) pos
      refine ⟨p, ?_⟩
      rw [List.append_assoc, List.cons_append, hp, hset acc hnd]
    | cons e' es' =>
      obtain ⟨b, hb, hob, hrb⟩ := ihes (fun z hz => hkeys z (List.mem_cons_of_mem _ hz))
        (fun z hz => ih z (List.mem_cons_of_mem _ hz)) (List.cons_ne_nil _ _)
      refine ⟨quote k ++ 0x3A :: (a ++ 0x2C :: b), ?_, ⟨_, quote_append k _⟩, ?_⟩
      · rw [writeEntries.eq_3 _ _ _ _ (List.cons_ne_nil _ _), ha, hb, compact_seps.1,
          compact_seps.2]
        simp
      intro doc limit depth fuel acc r pos hr hnd hdepth hfuel
      obtain ⟨f, rfl⟩ : ∃ f, fuel = f + 1 := ⟨fuel - 1, by omega⟩
      simp only [Value.nativeFramesEntries] at hdepth
      simp only [List.length_append, List.length_cons, quote] at hfuel
      obtain ⟨u, hu⟩ := hob
      have hob' : OpensValue (b ++ 0x7D :: r) := ⟨0x22, u ++ 0x7D :: r, by simp [hu], by decide⟩
      obtain ⟨p, hp⟩ := entries_next doc limit depth hk hoa hob' (fun q => hra doc limit depth f
        (0x2C :: (b ++ 0x7D :: r)) q (Token.endsValue_cons (by decide) _) (by omega) (by omega)) pos
      have hnd' : ((Entries.set acc k v).map Prod.fst ++ (e' :: es').map Prod.fst).Nodup := by
        rw [hset acc hnd]
        simpa using hnd
      obtain ⟨q, hq⟩ := hrb doc limit depth f (Entries.set acc k v) r p hr hnd'
        (by simp only [Value.nativeFramesEntries] at hdepth ⊢; omega) (by omega)
      refine ⟨q, ?_⟩
      rw [List.append_assoc, List.cons_append, List.append_assoc, List.cons_append, hp, hq,
        hset acc hnd]
      simp

theorem readsAs_object {es : List (Text × Value)} (hnd : (es.map Prod.fst).Nodup)
    (hkeys : ∀ e ∈ es, e.1.Scalar)
    (ih : ∀ e ∈ es, ∃ t, write Layout.compact e.2 = some t ∧ OpensValue t ∧ ReadsAs t e.2) :
    ∃ t, write Layout.compact (.object es) = some t ∧ OpensValue t ∧ ReadsAs t (.object es) := by
  cases es with
  | nil =>
    refine ⟨[0x7B, 0x7D], rfl, ⟨0x7B, [0x7D], rfl, by decide⟩, ?_⟩
    intro doc limit depth fuel r pos hr hdepth hfuel
    obtain ⟨f, rfl⟩ : ∃ f, fuel = f + 1 := ⟨fuel - 1, by simp at hfuel; omega⟩
    have hd : ¬ limit ≤ depth := by
      simp only [Value.nativeFrames, Value.nativeFramesEntries] at hdepth
      omega
    refine ⟨pos + 1 + 1, ?_⟩
    rw [List.cons_append, value, if_neg hd]
    simp only [List.cons_append, List.nil_append, skipSpace_delim (c := 0x7D) (by decide)]
  | cons e es =>
    obtain ⟨t, ht, hot, hrt⟩ := readsAs_entries hkeys ih (List.cons_ne_nil _ _)
    refine ⟨0x7B :: (t ++ [0x7D]), by rw [write, ht]; rfl, ⟨0x7B, _, rfl, by decide⟩, ?_⟩
    intro doc limit depth fuel r pos hr hdepth hfuel
    obtain ⟨f, rfl⟩ : ∃ f, fuel = f + 1 := ⟨fuel - 1, by simp at hfuel; omega⟩
    simp only [Value.nativeFrames] at hdepth
    simp only [List.length_cons, List.length_append] at hfuel
    have hd : ¬ limit ≤ depth := by omega
    obtain ⟨p, hp⟩ := hrt doc limit (depth + 1) f [] r (pos + 1) hr (by simpa using hnd)
      (by omega) (by omega)
    refine ⟨p, ?_⟩
    obtain ⟨u, rfl⟩ := hot
    rw [List.cons_append, List.append_assoc, List.singleton_append, value, if_neg hd,
      (show OpensValue (0x22 :: u) from ⟨0x22, u, rfl, by decide⟩).skipSpace]
    exact hp

end Json

/-! ## JSON data -/

namespace Value

/-- JSON data, what JSON text names faithfully: null, booleans, integers within the digit
limit, finite doubles, texts of scalar values, lists of JSON data, and objects whose keys
are distinct texts of scalar values and whose values are JSON data. -/
inductive JsonData : Value → Prop
  | null : JsonData .null
  | bool (b : Bool) : JsonData (.bool b)
  | int {n : Int} : n.natAbs < Nat.pow 10 digitLimit → JsonData (.int n)
  | float {x : Binary64} : x.exponentField < 2047 → JsonData (.float x)
  | str {s : Text} : s.Scalar → JsonData (.str s)
  | list {xs : List Value} : (∀ x ∈ xs, JsonData x) → JsonData (.list xs)
  | object {es : List (Text × Value)} : (es.map Prod.fst).Nodup → (∀ e ∈ es, e.1.Scalar) →
      (∀ e ∈ es, JsonData e.2) → JsonData (.object es)

open Json

/-- **JSON data reads back from its compact text.** Writing never fails on JSON data, and
the text it writes reads back as the data wherever it stands. -/
theorem JsonData.write_readsAs {v : Value} (hv : v.JsonData) :
    ∃ t, write Layout.compact v = some t ∧ OpensValue t ∧ ReadsAs t v := by
  obtain ⟨k1, k2, k3, -, -, -⟩ := keywords_text
  induction hv with
  | null =>
    refine ⟨_, rfl, ⟨0x6E, _, k1, by decide⟩, ?_⟩
    intro doc limit depth fuel r pos _ _ hfuel
    obtain ⟨f, rfl⟩ : ∃ f, fuel = f + 1 := ⟨fuel - 1, by rw [k1] at hfuel; simp at hfuel; omega⟩
    exact ⟨_, value_null doc limit depth f r pos⟩
  | bool b =>
    refine ⟨_, rfl, ?_, ?_⟩
    · cases b
      · exact ⟨0x66, _, k3, by decide⟩
      · exact ⟨0x74, _, k2, by decide⟩
    intro doc limit depth fuel r pos _ _ hfuel
    obtain ⟨f, rfl⟩ : ∃ f, fuel = f + 1 := ⟨fuel - 1, by cases b <;> simp [k2, k3] at hfuel <;> omega⟩
    exact value_bool doc limit depth b f r pos
  | @int n hn =>
    obtain ⟨c, u, hcu⟩ := List.exists_cons_of_ne_nil (Text.decimal_ne_nil n.natAbs)
    have hc : 0x30 ≤ c ∧ c ≤ 0x39 := by
      simpa [Text.isAsciiDigit] using
        Text.isAsciiDigit_of_mem_decimal (n := n.natAbs) (by rw [hcu]; exact List.mem_cons_self ..)
    obtain ⟨ho, hr⟩ := readsAs_signed (n < 0) hc fun r pos hr => by
      rw [← hcu]
      exact number?_int hn hr pos
    exact ⟨_, by rw [write, Int.toText?, if_pos hn, hcu], ho, hr⟩
  | @float x hx =>
    obtain ⟨c, u, hcu, hc⟩ := Binary64.render_head FloatLayout.json hx
    have hdigit : 0x30 ≤ c ∧ c ≤ 0x39 := by omega
    obtain ⟨ho, hr⟩ := readsAs_signed (x.signBit = true) hdigit fun r pos hr => by
      rw [← hcu]
      exact number?_render hx hr pos
    exact ⟨_, by rw [write, hcu], ho, hr⟩
  | @str s hs =>
    refine ⟨quote s, rfl, ⟨0x22, _, rfl, by decide⟩, ?_⟩
    intro doc limit depth fuel r pos _ _ hfuel
    obtain ⟨f, rfl⟩ : ∃ f, fuel = f + 1 := ⟨fuel - 1, by simp [quote] at hfuel; omega⟩
    exact value_quote doc limit depth hs f r pos
  | list _ ih => exact readsAs_list ih
  | object hnd hkeys _ ih => exact readsAs_object hnd hkeys ih

/-- A reader whose nesting limit leaves room for the data reads its compact text back. -/
theorem JsonData.readWithin_write {v : Value} (hv : v.JsonData) {limit : Nat}
    (hlimit : v.nativeFrames ≤ 2 * limit) :
    ∃ t, write Layout.compact v = some t ∧ readWithin limit t = .ok v := by
  obtain ⟨t, ht, hot, hrt⟩ := hv.write_readsAs
  refine ⟨t, ht, ?_⟩
  obtain ⟨p, hp⟩ := hrt t limit 0 (2 * t.length + 2) [] 0 (fun _ _ h => nomatch h) (by omega)
    (by omega)
  rw [List.append_nil] at hp
  have hskip := hot.skipSpace [] 0
  rw [List.append_nil] at hskip
  have hbom : t.head? ≠ some 0xFEFF := by
    obtain ⟨c, u, rfl, -, hc, -⟩ := hot
    simp only [List.head?_cons, ne_eq, Option.some.injEq]
    omega
  unfold readWithin
  rw [if_neg hbom, hskip]
  simp only [hp]
  rfl

theorem JsonData.toTree_eq {v : Value} (hv : v.JsonData) : v.toTree = v := by
  induction hv with
  | null | bool _ | int _ | float _ | str _ => rfl
  | list _ ih => rw [toTree, toTreeItems_of_plain ih]
  | object _ _ _ ih => rw [toTree, toTreeEntries_of_plain ih]

/-- An array or object of JSON data shows as its compact JSON text when the host's stack
has room to turn it into plain data, and fails in comparison when it has not. -/
theorem JsonData.shownText_eq {v : Value} (hv : v.JsonData)
    (hk : v.nodeKind = .array ∨ v.nodeKind = .object) {t : Text}
    (ht : write Layout.compact v = some t) (frame : Nat) :
    v.shownText frame = if frame + 3 + v.nativeFrames ≤ Stack.limit then .ok t
      else .error (.abort (.stack Stack.comparing)) := by
  have htree := hv.toTree_eq
  obtain ⟨hpos, htext⟩ : 0 < v.nativeFrames ∧ v.toText = some t := by
    obtain ⟨xs, rfl⟩ | ⟨es, rfl⟩ : (∃ xs, v = .list xs) ∨ ∃ es, v = .object es := by
      cases v <;> simp_all [nodeKind]
    all_goals
      refine ⟨by simp [nativeFrames], ?_⟩
      rw [toText, htree]
      · exact ht
      all_goals simp
  unfold shownText overflowsAt
  rw [htext]
  by_cases hroom : frame + 3 + v.nativeFrames ≤ Stack.limit
  · rw [if_pos hroom, if_neg (by simp only [Bool.and_eq_true, decide_eq_true_eq]; omega)]
  · rw [if_neg hroom, if_pos (by simp only [Bool.and_eq_true, decide_eq_true_eq]; omega)]

end Value

namespace Builtin

theorem apply_string (frame : Nat) (v : Value) :
    apply frame .string [v] = Value.str <$> v.shownText (frame + 1) := rfl

end Builtin

/-! ## The `json` builtin after `string` -/

theorem eval_json_string (o : Options) (ctx : Value) (d : Nat) (e : Expr) :
    (Expr.call .json [.call .string [e]]).eval o ctx d =
      (e.eval o ctx (d + 4)).bind fun x =>
        (x.shownText (d + 4)).bind fun t => Builtin.readJson (d + 1) (.str t) := by
  simp only [Expr.eval, Expr.evalList]
  cases e.eval o ctx (d + 4) with
  | error err => rfl
  | ok x =>
    simp only [bind, Except.bind, pure, Except.pure, Builtin.apply_string]
    cases x.shownText (d + 2 + 1 + 1) with
    | error err => rfl
    | ok t => rfl

/-- **The `json` builtin undoes `string` on arrays and objects.** For an array or object of
JSON data, `json(string(e))` gives back exactly the value of `e`, of the same kind at every
position, when the host's stack has room to turn the data into text: two frames per level
of nesting, below the seven frames the two calls take from the depth of the expression.
Data that nests deeper fails in comparison, before any text is read. -/
theorem json_string_round_trip {o : Options} {ctx : Value} {d : Nat} {e : Expr} {x : Value}
    (he : e.eval o ctx (d + 4) = .ok x) (hx : x.JsonData)
    (hk : x.nodeKind = .array ∨ x.nodeKind = .object) :
    (Expr.call .json [.call .string [e]]).eval o ctx d =
      if d + 7 + x.nativeFrames ≤ Stack.limit then .ok x
      else .error (.abort (.stack Stack.comparing)) := by
  obtain ⟨t, ht, -⟩ := hx.write_readsAs
  rw [eval_json_string, he]
  show (x.shownText (d + 4)).bind (fun t => Builtin.readJson (d + 1) (.str t)) = _
  rw [hx.shownText_eq hk ht (d + 4)]
  by_cases hroom : d + 7 + x.nativeFrames ≤ Stack.limit
  · rw [if_pos (by omega), if_pos hroom]
    -- the reader's nesting limit leaves room for the data as well
    obtain ⟨t', ht', hread⟩ := hx.readWithin_write
      (show x.nativeFrames ≤ 2 * Builtin.jsonLevels (d + 1) by
        unfold Builtin.jsonLevels
        omega)
    rw [ht] at ht'
    cases ht'
    simp only [Except.bind, Builtin.readJson, Builtin.text, bind, hread]
  · rw [if_neg (by omega), if_neg hroom]
    rfl

/-- A list with a text of a code point beyond the Plane, a quote, a newline and an accented
letter, a negative integer, a negative zero and an object comes back from its text, from
the depth at which an expression is evaluated. -/
theorem json_string_round_trip_sample :
    let v := Value.list [.str [0x1F600, 0x22, 0x0A, 0xE9], .int (-12), .float (Binary64.zero true),
      .object [(Text.ofString "k", .list [.null, .bool true])]]
    v.JsonData ∧ v.nodeKind = .array ∧
      (Expr.call .json [.call .string [.lit v]]).eval Options.standard .null 7 = .ok v := by
  intro v
  have hx : v.JsonData := by
    refine .list fun y hy => ?_
    simp only [List.mem_cons, List.not_mem_nil, or_false] at hy
    rcases hy with rfl | rfl | rfl | rfl
    · exact .str (by decide)
    · exact .int (by decide +kernel)
    · exact .float (by decide)
    · refine .object (by decide) (by decide) fun e he => ?_
      simp only [List.mem_cons, List.not_mem_nil, or_false] at he
      subst he
      refine .list fun z hz => ?_
      simp only [List.mem_cons, List.not_mem_nil, or_false] at hz
      rcases hz with rfl | rfl
      · exact .null
      · exact .bool true
  refine ⟨hx, rfl, ?_⟩
  rw [json_string_round_trip rfl hx (.inl rfl), if_pos (by decide)]

namespace Value

/-- A list nested `n + 1` levels deep with nothing at the bottom, `[[…[]…]]`. -/
def nestedList : Nat → Value
  | 0 => .list []
  | n + 1 => .list [nestedList n]

theorem nativeFrames_nestedList (n : Nat) : (nestedList n).nativeFrames = 2 * (n + 1) := by
  induction n with
  | zero => rfl
  | succ n ih =>
    simp only [nestedList, nativeFrames, nativeFramesItems, ih]
    omega

theorem jsonData_nestedList (n : Nat) : (nestedList n).JsonData := by
  induction n with
  | zero => exact .list (by simp)
  | succ n ih => exact .list (by simpa using ih)

end Value

/-- A list of 494 levels nests too deeply to be shown from the depth at which `string`
runs inside `json`: `json(string(x))` fails in comparison, and does not give the list back. -/
theorem json_string_deep_list :
    (Value.nestedList 493).JsonData ∧
      (Expr.call .json [.call .string [.var (Text.ofString "x")]]).eval Options.standard
        (.object [(Text.ofString "x", Value.nestedList 493)]) 7 =
        .error (.abort (.stack Stack.comparing)) := by
  refine ⟨Value.jsonData_nestedList 493, ?_⟩
  have hvar : (Expr.var (Text.ofString "x")).eval Options.standard
      (.object [(Text.ofString "x", Value.nestedList 493)]) 11 = .ok (Value.nestedList 493) := by
    simp [Expr.eval, Options.fill, Options.standard, Value.property]
  have hshow : (Value.nestedList 493).shownText 11 = .error (.abort (.stack Stack.comparing)) := by
    unfold Value.shownText Value.overflowsAt
    rw [Value.nativeFrames_nestedList, if_pos (by decide)]
  rw [eval_json_string, hvar]
  simp only [Except.bind, hshow]

end Templating
