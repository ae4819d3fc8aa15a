import Templating.Proofs.JsonText
/-!
# Placeholders close where their sentence ends

A `${` in a template is closed by the first brace that the text after it leaves unmatched
outside quotes (`Expr.braceEnd`). That scan knows nothing of the grammar: it follows
quotes, the backslash pairs inside them, and braces. It still agrees with the grammar on
every sentence without a backtick, whatever text follows the closing brace:

* the tokens of a derivation nest their braces, each `}` closing a `{` of the same
  derivation (`Grammar.Derives.braceDepth`);
* one read of the scanner takes a run of code points the brace scan passes over, a brace,
  or a quoted string (`Expr.next?_cases`), and the brace scan passes over each the way the
  token moves the brace depth (`Expr.braceEnd_next?`); blanks it passes over too;
* so it passes over a whole scanned text as its tokens move the depth
  (`Expr.braceEnd_scan`), and a sentence ends at the depth it starts at.

Main statements:

    scan e = some ts → Sentence ts s → 0x60 ∉ e →
      braceEnd (e ++ "}" ++ r) 0 none = some e.length ∧
      templateParts src sub ("${" ++ e ++ "}" ++ r) [] =
        (do let x ← sub e; let tail ← templateParts src sub r []; pure (inr x :: tail))
                                                          (placeholder_closes_at_sentence_end)
-/

namespace Templating

namespace Token

/-! ## Brace depth of tokens -/

/-- The brace depth after a token, from depth `d`: `{` opens a level, `}` closes one and
has none to close at depth zero, and every other token leaves the depth. -/
def braceStep : Token → Nat → Option Nat
  | .sym .lbrace, d => some (d + 1)
  | .sym .rbrace, 0 => none
  | .sym .rbrace, d + 1 => some d
  | _, d => some d

/-- The brace depth after tokens, from depth `d`; none when a `}` finds no `{` to close. -/
def braceDepth (ts : List Token) (d : Nat) : Option Nat :=
  ts.foldlM (fun d tok => tok.braceStep d) d

@[simp] theorem braceDepth_nil (d : Nat) : braceDepth [] d = some d := rfl

@[simp] theorem braceDepth_cons (tok : Token) (ts : List Token) (d : Nat) :
    braceDepth (tok :: ts) d = (tok.braceStep d).bind (braceDepth ts) := rfl

@[simp] theorem braceDepth_append (ts us : List Token) (d : Nat) :
    braceDepth (ts ++ us) d = (braceDepth ts d).bind (braceDepth us) := by
  simp only [braceDepth, List.foldlM_append]
  rfl

@[simp] theorem braceStep_lbrace (d : Nat) : (Token.sym .lbrace).braceStep d = some (d + 1) := rfl

@[simp] theorem braceStep_rbrace (d : Nat) : (Token.sym .rbrace).braceStep (d + 1) = some d := rfl

theorem braceStep_of_ne {tok : Token} (hl : tok ≠ .sym .lbrace) (hr : tok ≠ .sym .rbrace)
    (d : Nat) : tok.braceStep d = some d := by
  unfold braceStep
  split <;> simp_all

@[simp] theorem braceStep_name (n : Text) (d : Nat) : (Token.name n).braceStep d = some d :=
  braceStep_of_ne (by simp) (by simp) d

@[simp] theorem braceStep_number (n : Text) (d : Nat) : (Token.number n).braceStep d = some d :=
  braceStep_of_ne (by simp) (by simp) d

@[simp] theorem braceStep_string (b : Text) (d : Nat) : (Token.string b).braceStep d = some d :=
  braceStep_of_ne (by simp) (by simp) d

@[simp] theorem braceStep_template (b : Text) (d : Nat) :
    (Token.template b).braceStep d = some d :=
  braceStep_of_ne (by simp) (by simp) d

@[simp] theorem braceStep_sym {s : Symbol} (hl : s ≠ .lbrace) (hr : s ≠ .rbrace) (d : Nat) :
    (Token.sym s).braceStep d = some d :=
  braceStep_of_ne (by simpa using hl) (by simpa using hr) d

end Token

namespace Grammar

open Token

theorem Tier.braceStep_of_operator? {t : Tier} {tok : Token} {c : Surface → Surface → Surface}
    (h : t.operator? tok = some c) (d : Nat) : tok.braceStep d = some d := by
  apply braceStep_of_ne <;> rintro rfl <;> cases t <;> simp [Tier.operator?] at h

theorem braceStep_of_unaryOp? {tok : Token} {c : Surface → Surface} (h : unaryOp? tok = some c)
    (d : Nat) : tok.braceStep d = some d := by
  apply braceStep_of_ne <;> rintro rfl <;> simp [unaryOp?] at h

@[simp] theorem braceStep_keyToken (k : SurfaceKey) (d : Nat) : (keyToken k).braceStep d = some d := by
  cases k <;> simp [keyToken]

/-- **A derivation nests its braces.** Every `}` among the tokens of a derivation closes a
`{` before it among the same tokens, so they leave the brace depth where they find it. -/
theorem Derives.braceDepth {r : Rule} {ts : List Token} {x : r.Tree} (h : Derives r ts x) :
    ∀ d, Token.braceDepth ts d = some d := by
  induction h with
  | operator hop _ _ ihl ihr => intro d; simp [ihl, ihr, Tier.braceStep_of_operator? hop]
  | unaryOp hop _ ih => intro d; simp [ih, braceStep_of_unaryOp? hop]
  -- an object's braces are the only ones a rule adds, around what derives inside them
  | object _ ih => intro d; simp [ih]
  | objectEmpty => intro d; rfl
  | _ => intro d; simp_all

end Grammar

namespace Text

theorem prefix_of_startsWith : ∀ {t p : Text}, startsWith t p = true → p <+: t
  | _, [], _ => List.nil_prefix
  | [], _ :: _, h => by simp [startsWith, stripPrefix?] at h
  | c :: t, d :: p, h => by
    simp only [startsWith, stripPrefix?] at h
    split at h
    · subst d
      exact (List.prefix_cons_inj c).2 (prefix_of_startsWith h)
    · simp at h

end Text

namespace Expr

open Token

/-! ## The brace scan over one token -/

/-- A code point the brace scan passes over outside quotes: no quote and no brace. -/
def Inert (c : Nat) : Prop := c ≠ 0x27 ∧ c ≠ 0x22 ∧ c ≠ 0x7B ∧ c ≠ 0x7D

instance (c : Nat) : Decidable (Inert c) :=
  inferInstanceAs (Decidable (c ≠ 0x27 ∧ c ≠ 0x22 ∧ c ≠ 0x7B ∧ c ≠ 0x7D))

/-- `w` starts `t`, and the brace scan passes over all of it. -/
def InertPrefix (w t : Text) : Prop := w <+: t ∧ ∀ c ∈ w, Inert c

theorem InertPrefix.nil (t : Text) : InertPrefix [] t := ⟨List.nil_prefix, by simp⟩

theorem InertPrefix.cons {c : Nat} {w t : Text} (hc : Inert c) (h : InertPrefix w t) :
    InertPrefix (c :: w) (c :: t) :=
  ⟨List.prefix_cons_inj c |>.2 h.1, by simpa [hc] using h.2⟩

theorem InertPrefix.append {w w' t : Text} (h : InertPrefix w t)
    (h' : InertPrefix w' (t.drop w.length)) : InertPrefix (w ++ w') t := by
  obtain ⟨u, rfl⟩ := h.1
  refine ⟨?_, by simpa [or_imp, forall_and] using And.intro h.2 h'.2⟩
  simpa using h'.1

theorem inertPrefix_takeWhile {p : Nat → Bool} (hp : ∀ c, p c = true → Inert c) (t : Text) :
    InertPrefix (t.takeWhile p) t :=
  ⟨List.takeWhile_prefix p, fun c hc => hp c (List.all_eq_true.1 List.all_takeWhile c hc)⟩

theorem inert_of_isDigit {c : Nat} (h : Text.isDigit c = true) : Inert c := by
  obtain ⟨z, hz, -⟩ := Option.map_eq_some_iff.1 (Option.isSome_iff_exists.1 h).choose_spec
  have hrun : z ≤ c ∧ c < z + 10 := by simpa using List.find?_some hz
  have hzeros : ∀ x ∈ Text.digitZeros, x = 0x30 ∨ 0x660 ≤ x := by decide
  rcases hzeros z (List.mem_of_find?_eq_some hz) with rfl | hbig <;>
    refine ⟨?_, ?_, ?_, ?_⟩ <;> omega

theorem inertPrefix_fraction (t : Text) : InertPrefix (fraction t) t := by
  unfold fraction
  split
  · dsimp only
    split
    · exact .nil _
    · exact .cons (by decide) (inertPrefix_takeWhile (fun _ => inert_of_isDigit) _)
  · exact .nil _

theorem inertPrefix_exponent (t : Text) : InertPrefix (exponent t) t := by
  have hdigits := inertPrefix_takeWhile (fun _ => inert_of_isDigit)
  match t with
  | [] => exact .nil _
  | e :: rest =>
    by_cases he : (e = 0x65 || e = 0x45) = true
    · have hie : Inert e := by
        simp only [Bool.or_eq_true, decide_eq_true_eq] at he
        rcases he with rfl | rfl <;> decide
      cases rest with
      | nil => simp [exponent, he, InertPrefix.nil]
      | cons s r =>
        by_cases hs : (s = 0x2B || s = 0x2D) = true
        · have his : Inert s := by
            simp only [Bool.or_eq_true, decide_eq_true_eq] at hs
            rcases hs with rfl | rfl <;> decide
          simp only [exponent, he, hs, if_true]
          split
          · exact .nil _
          · exact .cons hie (.cons his (hdigits r))
        · simp only [exponent, he, hs, if_true, if_false, Bool.false_eq_true]
          split
          · exact .nil _
          · exact .cons hie (hdigits _)
    · simp only [exponent, he, if_false, Bool.false_eq_true]
      exact .nil _

theorem inertPrefix_numberText (t : Text) : InertPrefix (numberText t) t := by
  unfold numberText
  dsimp only
  have hwhole := inertPrefix_takeWhile (fun _ => inert_of_isDigit) t
  refine (hwhole.append (inertPrefix_fraction _)).append ?_
  rw [List.length_append, ← List.drop_drop]
  exact inertPrefix_exponent _

theorem symbols_spelling {p : Text × Symbol} (h : p ∈ symbols) :
    (p = ([0x7B], .lbrace)) ∨ (p = ([0x7D], .rbrace)) ∨
      (p.2 ≠ .lbrace ∧ p.2 ≠ .rbrace ∧ ∀ c ∈ p.1, Inert c) := by
  rw [symbols_eq] at h
  revert p
  decide

/-- **What one read of the scanner takes**, from text that does not start with a
backtick: a run of code points the brace scan passes over, for a token that leaves the
brace depth (a number, a name, or a symbol other than a brace); a brace; or a quoted
string. -/
theorem next?_cases {u r : Text} {tok : Token} (h : next? u = some (tok, r))
    (htick : u.head? ≠ some 0x60) :
    (∃ w, InertPrefix w u ∧ r = u.drop w.length ∧ ∀ d, tok.braceStep d = some d) ∨
    (u = 0x7B :: r ∧ tok = .sym .lbrace) ∨
    (u = 0x7D :: r ∧ tok = .sym .rbrace) ∨
    ∃ q t b, u = q :: t ∧ (q = 0x27 ∨ q = 0x22) ∧ stringBody q t [] = some (b, r) ∧
      tok = .string b := by
  cases u with
  | nil => simp [next?] at h
  | cons c rest =>
    simp only [next?] at h
    split_ifs at h with hd hn hq hb
    · simp only [Option.some.injEq, Prod.mk.injEq] at h
      obtain ⟨rfl, rfl⟩ := h
      exact .inl ⟨_, inertPrefix_numberText _, rfl, by simp⟩
    · simp only [Option.some.injEq, Prod.mk.injEq] at h
      obtain ⟨rfl, rfl⟩ := h
      have hc : Inert c := by
        simp only [isNameStart, isLetter, Bool.or_eq_true, Bool.and_eq_true,
          decide_eq_true_eq] at hn
        refine ⟨?_, ?_, ?_, ?_⟩ <;> omega
      have hrest : ∀ x, isNameChar x = true → Inert x := by
        intro x hx
        simp only [isNameChar, isLetter, Text.isAsciiDigit, Bool.or_eq_true, Bool.and_eq_true,
          decide_eq_true_eq] at hx
        refine ⟨?_, ?_, ?_, ?_⟩ <;> omega
      exact .inl ⟨_, .cons hc (inertPrefix_takeWhile hrest rest), rfl, by simp⟩
    · obtain ⟨⟨b, r'⟩, hbody, he⟩ := Option.map_eq_some_iff.1 h
      simp only [Prod.mk.injEq] at he
      obtain ⟨rfl, rfl⟩ := he
      exact .inr (.inr (.inr ⟨c, rest, b, rfl, by simpa using hq, hbody, rfl⟩))
    · exact absurd (by simp [hb]) htick
    · obtain ⟨p, hp, he⟩ := Option.map_eq_some_iff.1 h
      simp only [Prod.mk.injEq] at he
      obtain ⟨rfl, rfl⟩ := he
      have hstart := List.find?_some hp
      have hpre := Text.prefix_of_startsWith hstart
      rcases symbols_spelling (List.mem_of_find?_eq_some hp) with rfl | rfl | ⟨hl, hr, hin⟩
      · obtain ⟨rfl, -⟩ := List.cons_prefix_cons.1 hpre
        exact .inr (.inl ⟨rfl, rfl⟩)
      · obtain ⟨rfl, -⟩ := List.cons_prefix_cons.1 hpre
        exact .inr (.inr (.inl ⟨rfl, rfl⟩))
      · exact .inl ⟨p.1, ⟨hpre, hin⟩, rfl, braceStep_sym hl hr⟩

theorem map_add_map_add (o : Option Nat) {m k n : Nat} (h : m + k = n) :
    (o.map (· + m)).map (· + k) = o.map (· + n) := by
  subst h
  simp [Option.map_map, Function.comp_def, Nat.add_assoc]

theorem braceEnd_cons_inert {c : Nat} (hc : Inert c) (t : Text) (d : Nat) :
    braceEnd (c :: t) d none = (braceEnd t d none).map (· + 1) := by
  obtain ⟨h1, h2, h3, h4⟩ := hc
  rw [braceEnd.eq_4, if_neg (by simp [h1, h2]), if_neg h3, if_neg h4]

theorem braceEnd_inert {w : Text} (hw : ∀ c ∈ w, Inert c) (x : Text) (d : Nat) :
    braceEnd (w ++ x) d none = (braceEnd x d none).map (· + w.length) := by
  induction w with
  | nil => simp
  | cons c w ih =>
    rw [List.cons_append, braceEnd_cons_inert (hw c (List.mem_cons_self ..)),
      ih (fun c hc => hw c (List.mem_cons_of_mem _ hc))]
    exact map_add_map_add _ (by simp)

/-- Inside a quote, the brace scan follows a quoted string's body the way the scanner
reads it, a backslash taking the next code point along, and leaves the quote at the
closing one. -/
theorem braceEnd_stringBody {q : Nat} (hq : q ≠ 0x5C) {t acc b r : Text}
    (h : stringBody q t acc = some (b, r)) (x : Text) (d : Nat) :
    r <:+ t ∧
      braceEnd (t ++ x) d (some q) =
        (braceEnd (r ++ x) d none).map (· + (t.length - r.length)) := by
  fun_induction stringBody q t acc with
  | case1 => simp at h
  | case2 rest acc =>
    simp only [Option.some.injEq, Prod.mk.injEq] at h
    obtain ⟨-, rfl⟩ := h
    refine ⟨List.suffix_cons _ _, ?_⟩
    rw [List.cons_append, braceEnd.eq_3 _ _ _ _ (fun _ _ hc _ => hq hc), if_pos rfl]
    simp
  | case3 => simp at h
  | case4 e rest acc _ _ ih =>
    obtain ⟨hsuf, ih⟩ := ih h
    refine ⟨hsuf.trans ((List.suffix_cons _ _).trans (List.suffix_cons _ _)), ?_⟩
    rw [List.cons_append, List.cons_append, braceEnd.eq_2, ih]
    have hlen := hsuf.length_le
    exact map_add_map_add _ (by simp; omega)
  | case5 => simp at h
  | case6 c rest acc hcq hc ih =>
    obtain ⟨hsuf, ih⟩ := ih h
    refine ⟨hsuf.trans (List.suffix_cons _ _), ?_⟩
    rw [List.cons_append, braceEnd.eq_3 _ _ _ _ (fun _ _ h _ => hc h), if_neg hcq, ih]
    have hlen := hsuf.length_le
    exact map_add_map_add _ (by simp; omega)

/-- **The brace scan over one token.** Outside quotes, the scan passes over what one read
of the scanner takes, and comes out at the depth the token leaves. -/
theorem braceEnd_next? {u r : Text} {tok : Token} (h : next? u = some (tok, r))
    (htick : u.head? ≠ some 0x60) {d d' : Nat} (hstep : tok.braceStep d = some d') (x : Text) :
    r <:+ u ∧
      braceEnd (u ++ x) d none = (braceEnd (r ++ x) d' none).map (· + (u.length - r.length)) := by
  rcases next?_cases h htick with ⟨w, ⟨⟨v, rfl⟩, hw⟩, rfl, hkeep⟩ | ⟨rfl, rfl⟩ | ⟨rfl, rfl⟩ |
      ⟨q, t, b, rfl, hq, hbody, rfl⟩
  · rw [hkeep d, Option.some.injEq] at hstep
    subst hstep
    rw [List.drop_left]
    refine ⟨List.suffix_append w v, ?_⟩
    rw [List.append_assoc, braceEnd_inert hw]
    simp
  · simp only [braceStep_lbrace, Option.some.injEq] at hstep
    subst hstep
    refine ⟨List.suffix_cons _ _, ?_⟩
    simp [braceEnd]
  · cases d with
    | zero => simp [braceStep] at hstep
    | succ d =>
      simp only [braceStep_rbrace, Option.some.injEq] at hstep
      subst hstep
      refine ⟨List.suffix_cons _ _, ?_⟩
      simp [braceEnd]
  · simp only [braceStep_string, Option.some.injEq] at hstep
    subst hstep
    have hq' : q ≠ 0x5C := by rcases hq with rfl | rfl <;> decide
    obtain ⟨hsuf, hscan⟩ := braceEnd_stringBody hq' hbody x d
    refine ⟨hsuf.trans (List.suffix_cons _ _), ?_⟩
    rw [List.cons_append, braceEnd.eq_4, if_pos (by rcases hq with rfl | rfl <;> rfl), hscan]
    have hlen := hsuf.length_le
    exact map_add_map_add _ (by simp; omega)

/-! ## The brace scan over scanned text -/

theorem inert_of_isSpace {c : Nat} (h : isSpace c = true) : Inert c := by
  simp only [isSpace, Bool.or_eq_true, decide_eq_true_eq] at h
  rcases h with (((rfl | rfl) | rfl) | rfl) | rfl <;> decide

/-- **The brace scan over a scanned text.** Outside quotes, the scan passes over a text
without backticks that the scanner reads, and comes out at the depth its tokens leave. -/
theorem braceEnd_scan {e : Text} {ts : List Token} (h : scan e = some ts) (htick : 0x60 ∉ e)
    {d d' : Nat} (hd : braceDepth ts d = some d') (x : Text) :
    braceEnd (e ++ x) d none = (braceEnd x d' none).map (· + e.length) := by
  -- induction along the scan, one blank or one token at a time
  fun_induction scan e generalizing ts d with
  | case1 =>
    simp only [Option.some.injEq] at h
    subst h
    simp only [braceDepth_nil, Option.some.injEq] at hd
    subst hd
    simp
  | case2 c rest hc ih =>
    rw [List.cons_append, braceEnd_cons_inert (inert_of_isSpace hc),
      ih h (fun hm => htick (List.mem_cons_of_mem _ hm)) hd]
    exact map_add_map_add _ (by simp)
  | case3 => simp at h
  | case4 c rest _ tok r hnext _ ih =>
    obtain ⟨ts', hts', rfl⟩ := Option.map_eq_some_iff.1 h
    obtain ⟨d₁, hd₁, hd'⟩ := Option.bind_eq_some_iff.1 hd
    have hhead : (c :: rest).head? ≠ some 0x60 := by
      simp only [List.head?_cons, ne_eq, Option.some.injEq]
      rintro rfl
      exact htick (List.mem_cons_self ..)
    obtain ⟨hsuf, hstep⟩ := braceEnd_next? hnext hhead hd₁ x
    rw [hstep, ih hts' (fun hm => htick (hsuf.subset hm)) hd']
    have hlen := hsuf.length_le
    exact map_add_map_add _ (by omega)
  | case5 => simp at h

end Expr

open Templating.Expr in
/-- **A placeholder closes where its sentence ends.** For a sentence of the grammar without
a backtick, followed by `}` and any text, the brace scan stops at that `}`; so a template
that opens a placeholder with the sentence hands the sentence whole to the parser of its
parts (`sub`), and then goes on with the parts of the text after the brace. -/
theorem placeholder_closes_at_sentence_end {e : Text} {ts : List Token} {s : Surface}
    (hscan : Token.scan e = some ts) (hs : Grammar.Sentence ts s) (htick : 0x60 ∉ e)
    (r : Text) :
    braceEnd (e ++ 0x7D :: r) 0 none = some e.length ∧
      ∀ (source : Text) (sub : Text → Except ParseError Expr),
        templateParts source sub (0x24 :: 0x7B :: (e ++ 0x7D :: r)) [] = (do
          let x ← sub e
          let tail ← templateParts source sub r []
          pure (.inr x :: tail)) := by
  have hend : braceEnd (e ++ 0x7D :: r) 0 none = some e.length := by
    rw [braceEnd_scan hscan htick (hs.braceDepth 0)]
    simp [braceEnd]
  refine ⟨hend, fun source sub => ?_⟩
  rw [templateParts.eq_3, hend]
  simp [templateParts.literal]

open Templating.Expr in
/-- A sentence whose strings hold braces and an escaped quote, beside an object literal:
its placeholder closes at the brace after it. -/
theorem placeholder_closes_at_sentence_end_sample :
    ((Token.scan (Text.ofString "concat(\"\x7d\", \x7ba: \"\\\"\x7b\"\x7d.a)")).bind Surface.parse?).isSome ∧
      0x60 ∉ Text.ofString "concat(\"\x7d\", \x7ba: \"\\\"\x7b\"\x7d.a)" ∧
      braceEnd (Text.ofString "concat(\"\x7d\", \x7ba: \"\\\"\x7b\"\x7d.a)" ++ 0x7D :: Text.ofString " and more") 0 none = some 25 ∧
      ∀ (source : Text) (sub : Text → Except ParseError Expr),
        templateParts source sub
            (0x24 :: 0x7B :: (Text.ofString "concat(\"\x7d\", \x7ba: \"\\\"\x7b\"\x7d.a)" ++ 0x7D :: Text.ofString " and more")) [] = (do
          let x ← sub (Text.ofString "concat(\"\x7d\", \x7ba: \"\\\"\x7b\"\x7d.a)")
          let tail ← templateParts source sub (Text.ofString " and more") []
          pure (.inr x :: tail)) := by
  have hacc : ((Token.scan (Text.ofString "concat(\"\x7d\", \x7ba: \"\\\"\x7b\"\x7d.a)")).bind Surface.parse?).isSome := by
    decide +kernel
  obtain ⟨s, hs⟩ := Option.isSome_iff_exists.1 hacc
  obtain ⟨ts, hts, hp⟩ := Option.bind_eq_some_iff.1 hs
  have htick : 0x60 ∉ Text.ofString "concat(\"\x7d\", \x7ba: \"\\\"\x7b\"\x7d.a)" := by decide
  exact ⟨hacc, htick,
    placeholder_closes_at_sentence_end hts (Surface.parse?_eq_some_iff.1 hp) htick _⟩

end Templating
