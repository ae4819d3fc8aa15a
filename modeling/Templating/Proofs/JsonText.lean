import Templating.Proofs.FloatReading
import Templating.Proofs.Acceptance

/-!
# JSON text read as expression text

The JSON text of plain data reads back, token by token, as expression text. A text is
written as a string literal, each code point as itself, as a backslash and a letter, or
as `\u` escapes (`Json.escapeCodePoint_shape`); the reader's string token takes the
escaped body whole (`Token.next?_quote`), and unescaping gives the text back when every
code point lies in the Basic Multilingual Plane (`Expr.unescape_flatMap`). Beyond the
Plane a code point is written as a surrogate pair, and each half is unescaped on its own.
Keywords, numbers, brackets and separators each read as one token, and the space after a
separator is skipped.

Plain data (`Value.Plain`) is what JSON text names faithfully: null, booleans, integers
within the digit limit, finite doubles, texts of the Plane, lists, and objects with
distinct keys. Its text, followed by anything that may end a value, scans as the tokens
`Value.jsonTokens` lists (`Value.Plain.scansAs_write`); a double's text is its sign and
the text of its magnitude (`Binary64.render_eq_sign_append`).

Main statements:

    (∀ c ∈ s, c < 0x10000) → unescape (s.flatMap escapeCodePoint) = s   (unescape_flatMap)
    next? (quote s ++ rest) = some (string (s.flatMap escapeCodePoint), rest)  (next?_quote)
    v.Plain → ∃ t, write spaced v = some t ∧ ScansAs t v.jsonTokens   (Plain.scansAs_write)
-/

namespace Templating

/-! ## Strings -/

namespace Text

theorem hexDigitValue?_hexDigit {d : Nat} (h : d < 16) : hexDigitValue? (hexDigit d) = some d := by
  have key : ∀ d < 16, hexDigitValue? (hexDigit d) = some d := by decide
  exact key d h

theorem hex_four (c : Nat) :
    hex 4 c = [hexDigit (c / 16 / 16 / 16 % 16), hexDigit (c / 16 / 16 % 16),
      hexDigit (c / 16 % 16), hexDigit (c % 16)] := rfl

theorem hex4?_hex {c : Nat} (h : c < 0x10000) : hex4? (hex 4 c) = some c := by
  rw [hex_four]
  unfold hex4?
  simp only [List.length_cons, List.length_nil, if_true, List.foldl_cons, List.foldl_nil,
    Option.bind_some, hexDigitValue?_hexDigit (Nat.mod_lt _ (show 0 < 16 by decide)),
    Option.map_some]
  congr 1
  omega

theorem hexDigit_bounds {d : Nat} (h : d < 16) :
    (0x30 ≤ hexDigit d ∧ hexDigit d ≤ 0x39) ∨ (0x61 ≤ hexDigit d ∧ hexDigit d ≤ 0x66) := by
  unfold hexDigit
  split <;> omega

end Text

namespace Json

/-- How a code point is written inside a JSON string: as itself, as a backslash and a
letter (or the code point itself), or as one or two `\u` escapes. -/
theorem escapeCodePoint_shape (c : Nat) :
    (escapeCodePoint c = [c] ∧ c ≠ 0x22 ∧ c ≠ 0x5C ∧ c < 0x10000) ∨
    (c < 0x10000 ∧
      ∃ d, escapeCodePoint c = [0x5C, d] ∧ d ≠ 0x0A ∧ d ≠ 0x75 ∧ Expr.escapedCodePoint d = c) ∨
    (c < 0x10000 ∧ escapeCodePoint c = unicodeEscape c) ∨
    (0x10000 ≤ c ∧ escapeCodePoint c = unicodeEscape (0xD800 + (c - 0x10000) / 0x400) ++
      unicodeEscape (0xDC00 + (c - 0x10000) % 0x400)) := by
  by_cases h1 : c = 0x22
  · subst h1
    exact .inr (.inl ⟨by decide, 0x22, by decide, by decide, by decide, by decide⟩)
  by_cases h2 : c = 0x5C
  · subst h2
    exact .inr (.inl ⟨by decide, 0x5C, by decide, by decide, by decide, by decide⟩)
  by_cases h3 : c = 0x08
  · subst h3
    exact .inr (.inl ⟨by decide, 0x62, by decide, by decide, by decide, by decide⟩)
  by_cases h4 : c = 0x0C
  · subst h4
    exact .inr (.inl ⟨by decide, 0x66, by decide, by decide, by decide, by decide⟩)
  by_cases h5 : c = 0x0A
  · subst h5
    exact .inr (.inl ⟨by decide, 0x6E, by decide, by decide, by decide, by decide⟩)
  by_cases h6 : c = 0x0D
  · subst h6
    exact .inr (.inl ⟨by decide, 0x72, by decide, by decide, by decide, by decide⟩)
  by_cases h7 : c = 0x09
  · subst h7
    exact .inr (.inl ⟨by decide, 0x74, by decide, by decide, by decide, by decide⟩)
  rw [escapeCodePoint, if_neg h1, if_neg h2, if_neg h3, if_neg h4, if_neg h5, if_neg h6,
    if_neg h7]
  by_cases hp : 0x20 ≤ c ∧ c ≤ 0x7E
  · rw [if_pos hp]
    exact .inl ⟨rfl, h1, h2, by omega⟩
  rw [if_neg hp]
  by_cases hb : c < 0x10000
  · rw [if_pos hb]
    exact .inr (.inr (.inl ⟨hb, rfl⟩))
  · rw [if_neg hb]
    exact .inr (.inr (.inr ⟨by omega, rfl⟩))

theorem unicodeEscape_eq (v : Nat) : unicodeEscape v = 0x5C :: 0x75 :: Text.hex 4 v := by
  have h : Text.ofString "\\u" = [0x5C, 0x75] := by decide
  rw [unicodeEscape, h]
  rfl

end Json

namespace Token

/-- Text that the body of a double-quoted string reads through: code points other than the
quote and the backslash, and backslashes each with a code point other than a newline. -/
inductive InString : Text → Prop
  | nil : InString []
  | plain {c : Nat} {t : Text} : c ≠ 0x22 → c ≠ 0x5C → InString t → InString (c :: t)
  | escape {d : Nat} {t : Text} : d ≠ 0x0A → InString t → InString (0x5C :: d :: t)

theorem stringBody_of_inString {t : Text} (ht : InString t) (rest acc : Text) :
    stringBody 0x22 (t ++ 0x22 :: rest) acc = some (acc.reverse ++ t, rest) := by
  induction ht generalizing acc with
  | nil =>
    rw [List.nil_append, stringBody.eq_def]
    simp
  | plain hq hb _ ih =>
    rw [List.cons_append, stringBody.eq_def]
    simp only [if_neg hq, if_neg hb]
    rw [ih]
    simp
  | escape hd _ ih =>
    rw [List.cons_append, List.cons_append, stringBody.eq_def]
    simp only [show (0x5C : Nat) ≠ 0x22 by decide, if_false, if_true, if_neg hd]
    rw [ih]
    simp

theorem inString_hex (v : Nat) : ∀ t, InString t → InString (Text.hex 4 v ++ t) := by
  intro t ht
  have hdigit : ∀ d, d < 16 → ∀ t, InString t → InString (Text.hexDigit d :: t) := by
    intro d hd t ht
    have := Text.hexDigit_bounds hd
    refine .plain ?_ ?_ ht <;> omega
  rw [Text.hex_four]
  simp only [List.cons_append, List.nil_append]
  have h16 : ∀ n, n % 16 < 16 := fun n => Nat.mod_lt _ (by decide)
  exact hdigit _ (h16 _) _ (hdigit _ (h16 _) _ (hdigit _ (h16 _) _ (hdigit _ (h16 _) _ ht)))

theorem inString_unicodeEscape (v : Nat) {t : Text} (ht : InString t) :
    InString (Json.unicodeEscape v ++ t) := by
  rw [Json.unicodeEscape_eq, List.cons_append, List.cons_append]
  exact .escape (by decide) (inString_hex v t ht)

theorem inString_escapeCodePoint (c : Nat) {t : Text} (ht : InString t) :
    InString (Json.escapeCodePoint c ++ t) := by
  rcases Json.escapeCodePoint_shape c with ⟨h, hq, hb, -⟩ | ⟨-, d, h, hd, -, -⟩ | ⟨-, h⟩ | ⟨-, h⟩
  · rw [h]
    exact .plain hq hb ht
  · rw [h]
    exact .escape hd ht
  · rw [h]
    exact inString_unicodeEscape c ht
  · rw [h, List.append_assoc]
    exact inString_unicodeEscape _ (inString_unicodeEscape _ ht)

theorem inString_flatMap (s : Text) : InString (s.flatMap Json.escapeCodePoint) := by
  induction s with
  | nil => exact .nil
  | cons c s ih =>
    rw [List.flatMap_cons]
    exact inString_escapeCodePoint c ih

/-- The JSON string literal of a text scans as one string token of its escaped body. -/
theorem next?_quote (s rest : Text) :
    next? (Json.quote s ++ rest) = some (.string (s.flatMap Json.escapeCodePoint), rest) := by
  have hbody := stringBody_of_inString (inString_flatMap s) rest []
  have hdigit : Text.isDigit 0x22 = false := by decide
  have hname : isNameStart 0x22 = false := by decide
  simp only [Json.quote, List.cons_append, List.append_assoc, List.nil_append]
  simp [next?, hdigit, hname, hbody]

end Token

namespace Expr

theorem unescape_plain {c : Nat} (hc : c ≠ 0x5C) (rest : Text) :
    unescape (c :: rest) = c :: unescape rest :=
  unescape.eq_3 c rest fun _ _ h => absurd h hc

theorem unescape_unicodeEscape {v : Nat} (hv : v < 0x10000) (rest : Text) :
    unescape (Json.unicodeEscape v ++ rest) = v :: unescape rest := by
  have hlen : (Text.hex 4 v).length = 4 := rfl
  rw [Json.unicodeEscape_eq, List.cons_append, List.cons_append, unescape.eq_2, if_pos rfl,
    List.take_left' hlen, Text.hex4?_hex hv]
  simp only
  rw [List.drop_left' hlen]

theorem unescape_escapeCodePoint {c : Nat} (hc : c < 0x10000) (rest : Text) :
    unescape (Json.escapeCodePoint c ++ rest) = c :: unescape rest := by
  rcases Json.escapeCodePoint_shape c with ⟨h, -, hb, -⟩ | ⟨-, d, h, -, hu, hd⟩ | ⟨-, h⟩ | ⟨hbig, -⟩
  · rw [h, List.singleton_append, unescape_plain hb]
  · rw [h, List.cons_append, List.cons_append, List.nil_append, unescape.eq_2, if_neg hu, hd]
  · rw [h, unescape_unicodeEscape hc]
  · omega

/-- The escaped body of a text within the Basic Multilingual Plane unescapes to the text. -/
theorem unescape_flatMap {s : Text} (hs : ∀ c ∈ s, c < 0x10000) :
    unescape (s.flatMap Json.escapeCodePoint) = s := by
  induction s with
  | nil => rw [List.flatMap_nil, unescape.eq_1]
  | cons c s ih =>
    rw [List.flatMap_cons, unescape_escapeCodePoint (hs c (List.mem_cons_self ..)),
      ih fun c' hc' => hs c' (List.mem_cons_of_mem _ hc')]

/-- A code point beyond the Basic Multilingual Plane is escaped as its UTF-16 surrogate
pair, and unescaping reads the pair back as two code points. -/
theorem unescape_escapeCodePoint_astral {c : Nat} (hc : 0x10000 ≤ c) (hc' : c < 0x110000)
    (rest : Text) :
    unescape (Json.escapeCodePoint c ++ rest) =
      (0xD800 + (c - 0x10000) / 0x400) :: (0xDC00 + (c - 0x10000) % 0x400) :: unescape rest := by
  rcases Json.escapeCodePoint_shape c with ⟨-, -, -, h⟩ | ⟨h, -⟩ | ⟨h, -⟩ | ⟨-, h⟩
  · omega
  · omega
  · omega
  · have hhi : 0xD800 + (c - 0x10000) / 0x400 < 0x10000 := by omega
    have hlo : 0xDC00 + (c - 0x10000) % 0x400 < 0x10000 := by omega
    rw [h, List.append_assoc, unescape_unicodeEscape hhi, unescape_unicodeEscape hlo]

end Expr

namespace Binary64

theorem exponentField_lt (x : Binary64) : x.exponentField < 2048 := by
  unfold exponentField
  exact Nat.mod_lt _ (by decide)

theorem abs_eq_ofFields (x : Binary64) : x.abs = ofFields false x.exponentField x.fractionField := by
  have hbits := bits_eq_fields x
  have he := exponentField_lt x
  have hf := fractionField_lt x
  unfold abs ofFields
  congr 1
  apply UInt64.toNat_inj.1
  rw [UInt64.toNat_and, UInt64.toNat_ofNat']
  simp only [Nat.pow_eq] at *
  have hmask : (0x7FFFFFFFFFFFFFFF : UInt64).toNat = 2 ^ 63 - 1 := by decide
  rw [hmask, Nat.and_two_pow_sub_one_eq_mod, hbits]
  split <;> simp <;> omega

theorem fields_abs (x : Binary64) :
    x.abs.signBit = false ∧ x.abs.exponentField = x.exponentField ∧
      x.abs.fractionField = x.fractionField := by
  rw [abs_eq_ofFields]
  exact fields_ofFields (exponentField_lt x) (fractionField_lt x)

theorem render_eq_sign_append (L : FloatLayout) {x : Binary64} (hx : x.exponentField < 2047) :
    x.render L = (if x.signBit then [0x2D] else []) ++ x.abs.render L := by
  obtain ⟨hs, he, hf⟩ := fields_abs x
  have hx' : x.abs.exponentField < 2047 := he ▸ hx
  have hmag : x.abs.magnitude = x.magnitude := by
    unfold magnitude significand scale
    rw [he, hf]
  have hshort : x.abs.shortest = x.shortest := by
    unfold shortest
    rw [he, hf]
  unfold render
  rw [shape_of_lt hx, shape_of_lt hx', hmag, hshort, hs]
  rcases Nat.eq_zero_or_pos x.magnitude with h0 | hpos
  · simp [h0]
  · obtain ⟨m, hm⟩ := Nat.exists_eq_add_of_lt hpos
    simp [hm]

end Binary64


/-! ## Reading tokens -/

namespace Token

theorem symbols_eq : symbols =
    [([0x7C, 0x7C], .orOr), ([0x26, 0x26], .andAnd), ([0x3D, 0x3D], .eqEq),
     ([0x21, 0x3D], .bangEq), ([0x3C, 0x3D], .le), ([0x3E, 0x3D], .ge),
     ([0x3C], .lt), ([0x3E], .gt), ([0x2B], .plus), ([0x2D], .minus), ([0x2A], .star),
     ([0x2F], .slash), ([0x25], .percent), ([0x5E], .caret), ([0x21], .bang), ([0x2E], .dot),
     ([0x5B], .lbracket), ([0x5D], .rbracket), ([0x28], .lparen), ([0x29], .rparen),
     ([0x2C], .comma), ([0x7B], .lbrace), ([0x7D], .rbrace), ([0x3A], .colon)] := by
  decide

/-- The symbols of JSON text: brackets, braces, separators and the minus sign. -/
def jsonSymbols : List (Nat × Symbol) :=
  [(0x5B, .lbracket), (0x5D, .rbracket), (0x7B, .lbrace), (0x7D, .rbrace), (0x2C, .comma),
   (0x3A, .colon), (0x2D, .minus)]

theorem next?_jsonSymbol {c : Nat} {s : Symbol} (h : (c, s) ∈ jsonSymbols) (r : Text) :
    next? (c :: r) = some (.sym s, r) := by
  have hplain : Text.isDigit c = false ∧ isNameStart c = false ∧ c ≠ 0x27 ∧ c ≠ 0x22 ∧
      c ≠ 0x60 := by
    have key : ∀ p ∈ jsonSymbols, Text.isDigit p.1 = false ∧ isNameStart p.1 = false ∧
        p.1 ≠ 0x27 ∧ p.1 ≠ 0x22 ∧ p.1 ≠ 0x60 := by decide
    exact key _ h
  have hfind : symbols.find? (fun s => Text.startsWith (c :: r) s.1) = some ([c], s) := by
    simp only [jsonSymbols, List.mem_cons, Prod.mk.injEq, List.not_mem_nil, or_false] at h
    rcases h with ⟨rfl, rfl⟩ | ⟨rfl, rfl⟩ | ⟨rfl, rfl⟩ | ⟨rfl, rfl⟩ | ⟨rfl, rfl⟩ | ⟨rfl, rfl⟩ |
      ⟨rfl, rfl⟩ <;> simp [symbols_eq, Text.startsWith, Text.stripPrefix?]
  obtain ⟨hd, hn, hq1, hq2, hb⟩ := hplain
  simp [next?, hd, hn, hq1, hq2, hb, hfind]

theorem next?_name {c : Nat} {t r : Text} (hd : Text.isDigit c = false)
    (hc : isNameStart c = true) (ht : ∀ x ∈ t, isNameChar x = true)
    (hr : ∀ x r', r = x :: r' → isNameChar x = false) :
    next? (c :: t ++ r) = some (.name (c :: t), r) := by
  have htake : (t ++ r).takeWhile isNameChar = t := by
    rw [List.takeWhile_append_of_pos ht]
    cases r with
    | nil => simp
    | cons x r' => rw [List.takeWhile_cons_of_neg (by simp [hr x r' rfl]), List.append_nil]
  simp [next?, hd, hc, htake]

theorem next?_number_of_numberText {c : Nat} {t r : Text} (hc : Text.isDigit c = true)
    (h : numberText (c :: t ++ r) = c :: t) :
    next? (c :: t ++ r) = some (.number (c :: t), r) := by
  rw [List.cons_append] at h ⊢
  simp only [next?, hc, if_true, h]
  rw [← List.cons_append, List.drop_left]

theorem scan_jsonSymbol {c : Nat} {s : Symbol} (h : (c, s) ∈ jsonSymbols) (r : Text) :
    scan (c :: r) = (scan r).map (.sym s :: ·) := by
  have hc : isSpace c = false := by
    have key : ∀ p ∈ jsonSymbols, isSpace p.1 = false := by decide
    exact key _ h
  have := scan_of_next? (u := []) hc (next?_jsonSymbol h r)
  simpa using this

end Token


/-! ## Scanning JSON text -/

namespace Token

/-- What may follow a value inside its container's JSON text: nothing, an item separator,
or a closing bracket or brace. -/
def EndsValue (r : Text) : Prop := ∀ c r', r = c :: r' → c = 0x2C ∨ c = 0x5D ∨ c = 0x7D

theorem EndsValue.endsNumber {r : Text} (h : EndsValue r) : EndsNumber r := by
  intro c r' hr
  rcases h c r' hr with rfl | rfl | rfl <;> decide

theorem EndsValue.not_nameChar {r : Text} (h : EndsValue r) :
    ∀ x r', r = x :: r' → isNameChar x = false := by
  intro c r' hr
  rcases h c r' hr with rfl | rfl | rfl <;> decide

theorem endsValue_cons {c : Nat} (hc : c = 0x2C ∨ c = 0x5D ∨ c = 0x7D) (r : Text) :
    EndsValue (c :: r) := by
  intro c' r' h
  rw [← (List.cons.inj h).1]
  exact hc

/-- Text that scans as the tokens `ts` and then as whatever follows it, when what follows
may end a value. -/
def ScansAs (t : Text) (ts : List Token) : Prop :=
  ∀ r, EndsValue r → scan (t ++ r) = (scan r).map (ts ++ ·)

theorem isSpace_of_isNameStart {c : Nat} (hc : isNameStart c = true) : isSpace c = false := by
  simp only [isNameStart, isLetter, Bool.or_eq_true, Bool.and_eq_true, decide_eq_true_eq] at hc
  simp only [isSpace, Bool.or_eq_false_iff, decide_eq_false_iff_not]
  omega

theorem scansAs_name {c : Nat} {t : Text} (hd : Text.isDigit c = false)
    (hc : isNameStart c = true) (ht : ∀ x ∈ t, isNameChar x = true) :
    ScansAs (c :: t) [.name (c :: t)] := by
  intro r hr
  rw [scan_of_next? (isSpace_of_isNameStart hc) (next?_name hd hc ht hr.not_nameChar)]
  rfl

theorem scansAs_keyword {n : Text} (hn : n ∈ Grammar.keywords.map Prod.fst) :
    ScansAs n [.name n] := by
  simp only [Grammar.keywords, List.map_cons, List.map_nil, List.mem_cons, List.not_mem_nil,
    or_false] at hn
  rcases hn with rfl | rfl | rfl
  · rw [show Text.ofString "true" = 0x74 :: [0x72, 0x75, 0x65] by decide]
    exact scansAs_name (by decide) (by decide) (by decide)
  · rw [show Text.ofString "false" = 0x66 :: [0x61, 0x6C, 0x73, 0x65] by decide]
    exact scansAs_name (by decide) (by decide) (by decide)
  · rw [show Text.ofString "null" = 0x6E :: [0x75, 0x6C, 0x6C] by decide]
    exact scansAs_name (by decide) (by decide) (by decide)

theorem scansAs_numeral (n : Reading.Numeral) : ScansAs n.text [.number n.text] := by
  intro r hr
  obtain ⟨c, w, hw⟩ := List.exists_cons_of_ne_nil n.whole_ne
  have hc : Text.isAsciiDigit c = true := n.whole_digits c (by rw [hw]; exact List.mem_cons_self ..)
  have hspace : isSpace c = false := by
    simp only [Text.isAsciiDigit, Bool.and_eq_true, decide_eq_true_eq] at hc
    simp only [isSpace, Bool.or_eq_false_iff, decide_eq_false_iff_not]
    omega
  have htext : n.text = c :: (w ++ Reading.Numeral.fracText n.frac ++ Reading.Numeral.expText n.exp) := by
    simp [Reading.Numeral.text, hw]
  have hnum := numberText_text n hr.endsNumber
  rw [htext] at hnum ⊢
  rw [scan_of_next? hspace (next?_number_of_numberText (isDigit_of_isAsciiDigit hc) hnum)]
  rfl

/-- The decimal digits of a natural number, as number text. -/
def decimalNumeral (m : Nat) : Reading.Numeral where
  whole := Text.decimal m
  frac := []
  exp := none
  whole_ne := Text.decimal_ne_nil m
  whole_digits _ h := Text.isAsciiDigit_of_mem_decimal h
  frac_digits _ h := nomatch h
  exp_digits _ h := nomatch h

theorem scansAs_decimal (m : Nat) : ScansAs (Text.decimal m) [.number (Text.decimal m)] := by
  have h := scansAs_numeral (decimalNumeral m)
  simpa [decimalNumeral, Reading.Numeral.text, Reading.Numeral.fracText,
    Reading.Numeral.expText] using h

theorem scansAs_render (L : FloatLayout) {x : Binary64} (hx : x.exponentField < 2047)
    (hs : x.signBit = false) : ScansAs (x.render L) [.number (x.render L)] := by
  obtain ⟨n, htext, -, -⟩ := Binary64.render_finite L hx
  rw [hs, if_neg Bool.false_ne_true, List.nil_append] at htext
  rw [htext]
  exact scansAs_numeral n

theorem ScansAs.sign {t : Text} {ts : List Token} (h : ScansAs t ts) (p : Prop) [Decidable p] :
    ScansAs ((if p then [0x2D] else []) ++ t) ((if p then [Token.sym .minus] else []) ++ ts) := by
  intro r hr
  by_cases hp : p
  · simp only [if_pos hp, List.cons_append, List.nil_append]
    rw [scan_jsonSymbol (show ((0x2D : Nat), Symbol.minus) ∈ jsonSymbols by decide), h r hr,
      Option.map_map]
    rfl
  · simpa [hp] using h r hr

/-- The JSON string literal of a text scans as one string token of its escaped body,
before any text. -/
theorem scan_quote (s r : Text) :
    scan (Json.quote s ++ r) = (scan r).map (.string (s.flatMap Json.escapeCodePoint) :: ·) := by
  have h := next?_quote s r
  rw [Json.quote] at h ⊢
  exact scan_of_next? (by decide) h

theorem scansAs_quote (s : Text) :
    ScansAs (Json.quote s) [.string (s.flatMap Json.escapeCodePoint)] := by
  intro r _
  rw [scan_quote]
  rfl

theorem scan_itemSep (r : Text) :
    scan (Json.Layout.spaced.itemSep ++ r) = (scan r).map (.sym .comma :: ·) := by
  rw [show Json.Layout.spaced.itemSep = [0x2C, 0x20] by decide, List.cons_append,
    scan_jsonSymbol (show ((0x2C : Nat), Symbol.comma) ∈ jsonSymbols by decide),
    List.singleton_append, scan_space (by decide)]

theorem scan_keySep (r : Text) :
    scan (Json.Layout.spaced.keySep ++ r) = (scan r).map (.sym .colon :: ·) := by
  rw [show Json.Layout.spaced.keySep = [0x3A, 0x20] by decide, List.cons_append,
    scan_jsonSymbol (show ((0x3A : Nat), Symbol.colon) ∈ jsonSymbols by decide),
    List.singleton_append, scan_space (by decide)]

theorem ScansAs.itemSep {a b : Text} {ts us : List Token} (ha : ScansAs a ts)
    (hb : ScansAs b us) : ScansAs (a ++ Json.Layout.spaced.itemSep ++ b) (ts ++ .sym .comma :: us) := by
  intro r hr
  have hsep : EndsValue (Json.Layout.spaced.itemSep ++ b ++ r) :=
    endsValue_cons (.inl rfl) _
  rw [List.append_assoc, List.append_assoc, ha _ (by rw [← List.append_assoc]; exact hsep),
    scan_itemSep, hb r hr, Option.map_map, Option.map_map]
  simp [Function.comp_def]

theorem ScansAs.entry {b : Text} {ts : List Token} (hb : ScansAs b ts) (k : Text) :
    ScansAs (Json.quote k ++ Json.Layout.spaced.keySep ++ b)
      (.string (k.flatMap Json.escapeCodePoint) :: .sym .colon :: ts) := by
  intro r hr
  rw [List.append_assoc, List.append_assoc, scan_quote, scan_keySep, hb r hr, Option.map_map,
    Option.map_map]
  rfl

theorem ScansAs.enclose {t : Text} {ts : List Token} (h : ScansAs t ts) {l c : Nat}
    {sl sc : Symbol} (hl : (l, sl) ∈ jsonSymbols) (hc : (c, sc) ∈ jsonSymbols)
    (hclose : c = 0x5D ∨ c = 0x7D) :
    ScansAs (Json.enclose l c t) (.sym sl :: ts ++ [.sym sc]) := by
  intro r _
  simp only [Json.enclose, List.cons_append, List.append_assoc, List.nil_append]
  rw [scan_jsonSymbol hl, h _ (endsValue_cons (.inr hclose) r), scan_jsonSymbol hc,
    Option.map_map, Option.map_map]
  simp [Function.comp_def]

end Token


/-! ## Plain data -/

namespace Text

/-- Every code point of the text lies in the Basic Multilingual Plane, below `0x10000`. -/
def InBmp (s : Text) : Prop := ∀ c ∈ s, c < 0x10000

instance (s : Text) : Decidable s.InBmp := inferInstanceAs (Decidable (∀ c ∈ s, c < 0x10000))

end Text

namespace Value

/-- Plain data, built the way JSON text builds it: null, booleans, integers within the
digit limit, finite doubles, texts of the Basic Multilingual Plane, lists of plain data,
and objects whose keys are distinct texts of the Plane and whose values are plain data. -/
inductive Plain : Value → Prop
  | null : Plain .null
  | bool (b : Bool) : Plain (.bool b)
  | int {n : Int} : n.natAbs < Nat.pow 10 digitLimit → Plain (.int n)
  | float {x : Binary64} : x.exponentField < 2047 → Plain (.float x)
  | str {s : Text} : s.InBmp → Plain (.str s)
  | list {xs : List Value} : (∀ x ∈ xs, Plain x) → Plain (.list xs)
  | object {es : List (Text × Value)} : (es.map Prod.fst).Nodup → (∀ e ∈ es, e.1.InBmp) →
      (∀ e ∈ es, Plain e.2) → Plain (.object es)

mutual

/-- The tokens of the JSON text of plain data, as expression text reads them: a negative
number is a minus sign and a number, and a text is a string token of its escaped body. -/
def jsonTokens : Value → List Token
  | .null => [.name (Text.ofString "null")]
  | .bool b => [.name (Text.ofString (if b then "true" else "false"))]
  | .int n => (if n < 0 then [.sym .minus] else []) ++ [.number (Text.decimal n.natAbs)]
  | .float x =>
    (if x.signBit then [.sym .minus] else []) ++ [.number (x.abs.render FloatLayout.json)]
  | .str s => [.string (s.flatMap Json.escapeCodePoint)]
  | .list xs => .sym .lbracket :: jsonTokensItems xs ++ [.sym .rbracket]
  | .object es => .sym .lbrace :: jsonTokensEntries es ++ [.sym .rbrace]
  | _ => []

/-- The tokens of the items of a list, with commas between. -/
def jsonTokensItems : List Value → List Token
  | [] => []
  | [x] => jsonTokens x
  | x :: xs => jsonTokens x ++ .sym .comma :: jsonTokensItems xs

/-- The tokens of the entries of an object, with commas between. -/
def jsonTokensEntries : List (Text × Value) → List Token
  | [] => []
  | [(k, v)] => .string (k.flatMap Json.escapeCodePoint) :: .sym .colon :: jsonTokens v
  | (k, v) :: es =>
    .string (k.flatMap Json.escapeCodePoint) :: .sym .colon :: jsonTokens v ++
      .sym .comma :: jsonTokensEntries es

end

open Token

theorem scansAs_writeItems {xs : List Value}
    (ih : ∀ x ∈ xs, ∃ t, Json.write Json.Layout.spaced x = some t ∧ ScansAs t x.jsonTokens) :
    ∃ t, Json.writeItems Json.Layout.spaced xs = some t ∧ ScansAs t (jsonTokensItems xs) := by
  induction xs with
  | nil => exact ⟨[], rfl, fun r _ => by simp [jsonTokensItems]⟩
  | cons x xs ihxs =>
    obtain ⟨a, ha, hsa⟩ := ih x (List.mem_cons_self ..)
    cases xs with
    | nil => exact ⟨a, by simp [Json.writeItems, ha], by simpa [jsonTokensItems] using hsa⟩
    | cons y ys =>
      obtain ⟨b, hb, hsb⟩ := ihxs fun z hz => ih z (List.mem_cons_of_mem _ hz)
      refine ⟨a ++ Json.Layout.spaced.itemSep ++ b, ?_, ?_⟩
      · rw [Json.writeItems.eq_3 _ _ _ (List.cons_ne_nil _ _), ha, hb]
        rfl
      rw [jsonTokensItems.eq_3 _ _ (List.cons_ne_nil _ _)]
      exact hsa.itemSep hsb

theorem scansAs_writeEntries {es : List (Text × Value)}
    (ih : ∀ e ∈ es, ∃ t, Json.write Json.Layout.spaced e.2 = some t ∧ ScansAs t e.2.jsonTokens) :
    ∃ t, Json.writeEntries Json.Layout.spaced es = some t ∧ ScansAs t (jsonTokensEntries es) := by
  induction es with
  | nil => exact ⟨[], rfl, fun r _ => by simp [jsonTokensEntries]⟩
  | cons e es ihes =>
    obtain ⟨k, v⟩ := e
    obtain ⟨a, ha, hsa⟩ := ih (k, v) (List.mem_cons_self ..)
    cases es with
    | nil =>
      refine ⟨Json.quote k ++ Json.Layout.spaced.keySep ++ a, ?_, ?_⟩
      · rw [Json.writeEntries.eq_2, ha]
        rfl
      · simpa [jsonTokensEntries] using hsa.entry k
    | cons e' es' =>
      obtain ⟨b, hb, hsb⟩ := ihes fun z hz => ih z (List.mem_cons_of_mem _ hz)
      refine ⟨Json.quote k ++ Json.Layout.spaced.keySep ++ a ++ Json.Layout.spaced.itemSep ++ b,
        ?_, ?_⟩
      · rw [Json.writeEntries.eq_3 _ _ _ _ (List.cons_ne_nil _ _), ha, hb]
        rfl
      rw [jsonTokensEntries.eq_3 _ _ _ (List.cons_ne_nil _ _)]
      exact (hsa.entry k).itemSep hsb

/-- **The JSON text of plain data scans as its tokens.** Writing never fails on plain data,
and the text it writes, followed by anything that may end a value, scans as the tokens of
the data and then as what follows. -/
theorem Plain.scansAs_write {v : Value} (hv : v.Plain) :
    ∃ t, Json.write Json.Layout.spaced v = some t ∧ ScansAs t v.jsonTokens := by
  induction hv with
  | null => exact ⟨_, rfl, scansAs_keyword (by decide)⟩
  | bool b => exact ⟨_, rfl, by cases b <;> exact scansAs_keyword (by decide)⟩
  | int hn => exact ⟨_, by rw [Json.write, Int.toText?, if_pos hn], (scansAs_decimal _).sign _⟩
  | @float x hx =>
    refine ⟨_, rfl, ?_⟩
    obtain ⟨hs, he, -⟩ := Binary64.fields_abs x
    rw [jsonTokens, Binary64.render_eq_sign_append _ hx]
    exact (scansAs_render _ (he ▸ hx) hs).sign _
  | str _ => exact ⟨_, rfl, scansAs_quote _⟩
  | list _ ih =>
    obtain ⟨t, ht, hs⟩ := scansAs_writeItems ih
    exact ⟨_, by rw [Json.write, ht]; rfl, hs.enclose (by decide) (by decide) (.inl rfl)⟩
  | object _ _ _ ih =>
    obtain ⟨t, ht, hs⟩ := scansAs_writeEntries ih
    exact ⟨_, by rw [Json.write, ht]; rfl, hs.enclose (by decide) (by decide) (.inr rfl)⟩

end Value

end Templating
