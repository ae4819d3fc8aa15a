import Templating.Binding
import Templating.Proofs.Walk
/-!
# Interpolation: literal texts with placeholders

A document text that does not start with the marker `=` is literal text in which
`${…}` placeholders interpolate. It passes through four codings before it is shown:
classification escapes its backticks and puts it between backticks after the marker
(`classify`), the scanner reads that back as one template token (`Token.templateBody`),
the template is split into literal runs and placeholders at the braces that close them
(`Expr.templateParts`, `Expr.braceEnd`), and evaluation joins the runs with the shown
values of the placeholders (`Expr.evalParts`).

An `Interpolation` is a literal text cut at its placeholders. When the runs hold no
`${`, the placeholders hold no backtick and each ends at the brace that closes it, the
codings line up: the text resolves to its runs joined with its placeholders' shown values
(`Interpolation.render`), whatever backslashes, braces, dollars and backticks the runs
hold.

The host handles the placeholders deeper on its stack than the text itself is resolved:
a resolution at depth `F` parses them 16 frames deeper and evaluates them 9 frames deeper
(`Interpolation.Renders`). A placeholder that only just parses on its own can exhaust
the stack inside a template (`resolve_deep_placeholder`).

Main statements:

    scan ("`" ++ escapeTicks s ++ "`") = some [template (escapeTicks s)]      (Token.scan_template)
    resolve (assign b s) F = ok (ok (render i rs)), and a walk puts that text in place
      of every leaf s                                                     (resolve_interpolation)
-/

namespace Templating

/-! ## Scanning the template -/

namespace Token

open Document

theorem templateBody_step {c : Nat} {rest acc : Text} {lastPair : Option (Text × Text)}
    (hc : c ≠ backtick) (hpair : c = 0x5C → rest.head? ≠ some backtick) :
    templateBody (c :: rest) acc lastPair = templateBody rest (c :: acc) lastPair := by
  rw [templateBody.eq_4 _ _ _ _ hc]
  rintro r rfl rfl
  exact hpair rfl rfl

/-- The template scanner reads an escaped text closed by a backtick back as that text. A
text that ends in a backslash pairs it with the closing backtick; no free backtick comes
after that pair, so the scanner falls back to it, which again closes the text. -/
theorem templateBody_escapeTicks (s : Text) :
    ∀ (acc : Text) (lastPair : Option (Text × Text)),
      templateBody (escapeTicks s ++ [backtick]) acc lastPair =
        some (acc.reverse ++ escapeTicks s, []) := by
  induction s with
  | nil => intro acc lastPair; simp [templateBody, backtick]
  | cons c s ih =>
    intro acc lastPair
    rw [escapeTicks_cons]
    by_cases hc : c = backtick
    · rw [if_pos hc]
      simp only [backtick, List.cons_append, List.nil_append, templateBody] at ih ⊢
      rw [ih]
      simp
    · rw [if_neg hc]
      cases s with
      | nil =>
        by_cases hb : c = 0x5C
        · subst hb
          simp [templateBody, backtick]
        · simp only [escapeTicks_nil, List.nil_append, List.singleton_append] at ih ⊢
          rw [templateBody_step hc (by simp [hb]), ih]
          simp
      | cons d s =>
        have hd := head?_escapeTicks_ne (d :: s)
        simp only [List.cons_append, List.nil_append] at ih ⊢
        rw [templateBody_step hc, ih]
        · simp
        · intro _
          obtain ⟨x, xs, hx⟩ : ∃ x xs, escapeTicks (d :: s) = x :: xs := by
            rw [escapeTicks_cons]; split <;> simp
          rw [hx] at hd ⊢
          simpa using hd

theorem scan_template (s : Text) :
    scan (backtick :: (escapeTicks s ++ [backtick])) = some [.template (escapeTicks s)] := by
  have hdigit : Text.isDigit backtick = false := by decide
  have hnext : next? (backtick :: (escapeTicks s ++ [backtick])) =
      some (.template (escapeTicks s), []) := by
    simp only [next?, hdigit, templateBody_escapeTicks]
    simp [backtick, isNameStart, isLetter]
  rw [scan.eq_2, hnext]
  simp [isSpace, backtick, scan.eq_1]

end Token

/-! ## Splitting the template -/

namespace Expr

open Document

/-- The brace that closes a placeholder is found within the text scanned so far: what
follows it is never read. -/
theorem braceEnd_append {x : Text} {depth : Nat} {quote : Option Nat} {n : Nat}
    (h : braceEnd x depth quote = some n) (y : Text) :
    braceEnd (x ++ y) depth quote = some n := by
  fun_induction braceEnd x depth quote generalizing n with
  | case1 => simp at h
  | case2 c rest depth q ih =>
    obtain ⟨m, hm, rfl⟩ := Option.map_eq_some_iff.1 h
    simp [braceEnd, ih hm]
  | case3 c rest depth q hne ih =>
    obtain ⟨m, hm, rfl⟩ := Option.map_eq_some_iff.1 h
    have hc : c ≠ 0x5C := by
      rintro rfl
      cases rest with
      | nil => simp [braceEnd] at hm
      | cons d r => exact hne d r rfl rfl
    rw [List.cons_append, braceEnd.eq_3 _ _ _ _ (fun _ _ h _ => hc h), ih hm]
    rfl
  | case4 c rest depth hq ih =>
    obtain ⟨m, hm, rfl⟩ := Option.map_eq_some_iff.1 h
    simp [braceEnd, hq, ih hm]
  | case5 rest depth _ ih =>
    obtain ⟨m, hm, rfl⟩ := Option.map_eq_some_iff.1 h
    simp [braceEnd, ih hm]
  | case6 => simpa [braceEnd] using h
  | case7 rest depth hd _ _ ih =>
    obtain ⟨m, hm, rfl⟩ := Option.map_eq_some_iff.1 h
    simp [braceEnd, hd, ih hm]
  | case8 c rest depth hq hl hr ih =>
    obtain ⟨m, hm, rfl⟩ := Option.map_eq_some_iff.1 h
    simp [braceEnd, hq, hl, hr, ih hm]

theorem templateParts_step {source : Text} {sub : Text → Except ParseError Expr} {c : Nat}
    {rest run : Text} (hpair : c = 0x5C → rest.head? ≠ some 0x60)
    (hopen : c = 0x24 → rest.head? ≠ some 0x7B) :
    templateParts source sub (c :: rest) run = templateParts source sub rest (c :: run) := by
  rw [templateParts.eq_4]
  · rintro r rfl rfl; exact hpair rfl rfl
  · rintro r rfl rfl; exact hopen rfl rfl

/-- A literal run, escaped, is read back as itself into the current run, when it holds no
`${` and what follows it is the end or a `$`. -/
theorem templateParts_escapeTicks {source : Text} {sub : Text → Except ParseError Expr}
    (t : Text) (ht : ¬ [0x24, 0x7B] <:+: t) {rest : Text}
    (hrest : rest.head? = none ∨ rest.head? = some 0x24) (run : Text) :
    templateParts source sub (escapeTicks t ++ rest) run =
      templateParts source sub rest (t.reverse ++ run) := by
  induction t generalizing run with
  | nil => rfl
  | cons c t ih =>
    have ht' : ¬ [0x24, 0x7B] <:+: t := fun h => ht (h.trans (List.suffix_cons c t).isInfix)
    have hnext : (escapeTicks t ++ rest).head? ≠ some 0x60 ∧
        (c = 0x24 → (escapeTicks t ++ rest).head? ≠ some 0x7B) := by
      cases t with
      | nil => rcases hrest with h | h <;> simp [h, escapeTicks]
      | cons d t =>
        simp only [List.head?_append, head?_escapeTicks, List.head?_cons, Option.map_some,
          Option.some_or, backtick]
        refine ⟨by by_cases hd : d = 0x60 <;> simp [hd], ?_⟩
        rintro rfl hd
        have hd : d = 0x7B := by
          by_cases hb : d = 0x60
          · simp [hb] at hd
          · simpa [hb] using hd
        exact ht ⟨[], t, by simp [hd]⟩
    rw [escapeTicks_cons, List.append_assoc]
    by_cases hc : c = backtick
    · rw [if_pos hc]
      simp only [backtick] at hc ⊢
      subst hc
      rw [List.cons_append, List.cons_append, List.nil_append, templateParts.eq_2, ih ht']
      simp
    · rw [if_neg hc, List.singleton_append, templateParts_step (fun _ => hnext.1) hnext.2, ih ht']
      simp

theorem evalParts_literal (o : Options) (ctx : Value) (d : Nat) (run : Text)
    (ps : List (Text ⊕ Expr)) :
    evalParts o ctx d (templateParts.literal run ++ ps) =
      (run.reverse ++ ·) <$> evalParts o ctx d ps := by
  unfold templateParts.literal
  by_cases h : run.isEmpty
  · rw [List.isEmpty_iff.1 h]
    simp
  · simp [h, evalParts]

theorem leafFailure?_eq_none {rule : Text} {table : List Reach} {frame : Nat}
    (h : frame + table.length ≤ Stack.limit) : leafFailure? rule table frame = none := by
  have hlt : ¬ Stack.limit < frame := by omega
  have hget : table[Stack.limit - frame]? = none := List.getElem?_eq_none (by omega)
  simp [leafFailure?, hlt, hget]

/-- The parser a template parsed at depth `D` hands its parts to: ten frames deeper, for
a part shorter than the template's text `source`. -/
def partParser (source : Text) (D : Nat) (inner : Text) : Except ParseError Expr :=
  if inner.length < source.length then Expr.parse (D + 10) inner else .error (.malformed inner)

/-- An escaped text between backticks, parsed at depth `D` with eleven frames free, is a
template whose body is split with the parts parsed ten frames deeper. -/
theorem parse_template (D : Nat) (s : Text) (h : D + 11 ≤ Stack.limit) :
    Expr.parse D (backtick :: (escapeTicks s ++ [backtick])) =
      ((templateParts (backtick :: (escapeTicks s ++ [backtick]))
          (partParser (backtick :: (escapeTicks s ++ [backtick])) D)
          (escapeTicks s) []).mapError ParseError.inTemplate).map .template := by
  rw [Expr.parse]
  have htick : Text.isBlank backtick = false := by decide
  have hblank : Text.isAllBlank (backtick :: (escapeTicks s ++ [backtick])) = false := by
    simp [Text.isAllBlank, htick]
  have hroom : ¬ Stack.limit < D + scanFrames := by simp [scanFrames]; omega
  have hsurface : Surface.parse? [.template (escapeTicks s)] = some (.template (escapeTicks s)) :=
    rfl
  rw [if_neg (by simp [hblank]), if_neg hroom, Token.scan_template, Option.bind_some, hsurface]
  simp only [build, leaf]
  rw [leafFailure?_eq_none (by simp [templateReach]; omega)]
  rfl

end Expr

/-! ## Interpolations -/

/-- A literal text cut at its placeholders: a leading literal run, then slots, each a
placeholder's source and the literal run after it. -/
structure Interpolation where
  head : Text
  slots : List (Text × Text)

namespace Interpolation

open Document Templating.Expr

/-- `${`, which opens a placeholder. -/
def opener : Text := [0x24, 0x7B]

/-- The text of slots: each placeholder between `${` and `}`, then its literal run. -/
def slotsText : List (Text × Text) → Text
  | [] => []
  | (e, t) :: ss => opener ++ e ++ 0x7D :: t ++ slotsText ss

/-- The text of an interpolation. -/
def text (i : Interpolation) : Text := i.head ++ slotsText i.slots

/-- A literal run holds no `${`. -/
def IsLiteral (t : Text) : Prop := ¬ opener <:+: t

/-- A placeholder holds no backtick, and the brace that closes it is the first one its
own text leaves unmatched outside quotes. -/
def IsPlaceholder (e : Text) : Prop :=
  backtick ∉ e ∧ braceEnd (e ++ [0x7D]) 0 none = some e.length

/-- Every literal run holds no `${`, and every placeholder reads back whole. -/
def WellFormed (i : Interpolation) : Prop :=
  IsLiteral i.head ∧ ∀ s ∈ i.slots, IsPlaceholder s.1 ∧ IsLiteral s.2

/-- The text of slots with each placeholder replaced by its rendered text. -/
def renderSlots : List (Text × Text) → List Text → Text
  | (_, t) :: ss, r :: rs => r ++ t ++ renderSlots ss rs
  | _, _ => []

/-- The interpolated text: each placeholder replaced by its rendered text. -/
def render (i : Interpolation) (rs : List Text) : Text := i.head ++ renderSlots i.slots rs

/-- `Shows sub o ctx d ss rs`: the slots and the texts are as many, and each slot's
placeholder, parsed by `sub`, evaluates at depth `d` to a value shown as the text in its
place. -/
inductive Shows (sub : Text → Except ParseError Expr) (o : Options) (ctx : Value) (d : Nat) :
    List (Text × Text) → List Text → Prop
  | nil : Shows sub o ctx d [] []
  | cons {e t r : Text} {ss : List (Text × Text)} {rs : List Text} (x : Expr) (v : Value) :
      sub e = .ok x → x.eval o ctx d = .ok v → v.shownText d = .ok r →
      Shows sub o ctx d ss rs → Shows sub o ctx d ((e, t) :: ss) (r :: rs)

/-- Each placeholder parses where a template whose expression text is evaluated at depth
`E` parses its parts, evaluates where it evaluates them, and shows as its rendered
text. -/
def Renders (o : Options) (ctx : Value) (E : Nat) (ss : List (Text × Text)) (rs : List Text) :
    Prop :=
  Shows (Expr.parse (E + 13)) o ctx (E + 6) ss rs

theorem Shows.congr {sub sub' : Text → Except ParseError Expr} {o : Options} {ctx : Value}
    {d : Nat} {ss : List (Text × Text)} {rs : List Text} (h : Shows sub o ctx d ss rs)
    (hsub : ∀ s ∈ ss, sub s.1 = sub' s.1) : Shows sub' o ctx d ss rs := by
  induction h with
  | nil => exact .nil
  | cons x v hx hv hshow _ ih =>
    refine .cons x v ?_ hv hshow (ih fun s hs => hsub s (List.mem_cons_of_mem _ hs))
    rw [← hsub _ (List.mem_cons_self ..)]
    exact hx

theorem length_lt_slotsText {ss : List (Text × Text)} {s : Text × Text} (hs : s ∈ ss) :
    s.1.length < (slotsText ss).length := by
  induction ss with
  | nil => simp at hs
  | cons p ss ih =>
    rcases List.mem_cons.1 hs with rfl | hs
    · simp [slotsText, opener]; omega
    · have := ih hs
      simp [slotsText]; omega

theorem head?_escapeTicks_slotsText (ss : List (Text × Text)) :
    (escapeTicks (slotsText ss)).head? = none ∨
      (escapeTicks (slotsText ss)).head? = some 0x24 := by
  cases ss with
  | nil => simp [slotsText, escapeTicks]
  | cons s ss => right; simp [slotsText, opener, head?_escapeTicks, backtick]

theorem escapeTicks_slot (e t : Text) (ss : List (Text × Text)) (he : backtick ∉ e) :
    escapeTicks (slotsText ((e, t) :: ss)) =
      opener ++ e ++ 0x7D :: (escapeTicks t ++ escapeTicks (slotsText ss)) := by
  simp [slotsText, escapeTicks_append, escapeTicks_of_not_mem he, opener, escapeTicks_cons,
    backtick]

/-- At a slot, the escaped text is cut at the brace that closes the placeholder: the
placeholder goes to `sub`, and the text after the brace is split on. -/
theorem templateParts_slot {source : Text} {sub : Text → Except ParseError Expr} {e t : Text}
    (ss : List (Text × Text)) (he : IsPlaceholder e) (run : Text) :
    templateParts source sub (escapeTicks (slotsText ((e, t) :: ss))) run = (do
      let x ← sub e
      let tail ← templateParts source sub (escapeTicks t ++ escapeTicks (slotsText ss)) []
      pure (templateParts.literal run ++ .inr x :: tail)) := by
  obtain ⟨htick, hbrace⟩ := he
  have hend : braceEnd (e ++ 0x7D :: (escapeTicks t ++ escapeTicks (slotsText ss))) 0 none =
      some e.length := by
    simpa using braceEnd_append hbrace (escapeTicks t ++ escapeTicks (slotsText ss))
  have hdrop : List.drop (e.length + 1)
      (e ++ 0x7D :: (escapeTicks t ++ escapeTicks (slotsText ss))) =
        escapeTicks t ++ escapeTicks (slotsText ss) := by simp
  rw [escapeTicks_slot e t ss htick]
  simp only [opener, List.cons_append, List.nil_append, templateParts.eq_3]
  rw [hend]
  simp only [List.take_left']
  rw [hdrop]

/-- Escaped slots are split into their placeholders, parsed by `sub`, and their literal
runs; evaluated, the parts give the slots' interpolated text. -/
theorem templateParts_slots {source : Text} {sub : Text → Except ParseError Expr}
    {o : Options} {ctx : Value} {d : Nat} :
    ∀ {ss : List (Text × Text)} {rs : List Text},
      (∀ s ∈ ss, IsPlaceholder s.1 ∧ IsLiteral s.2) → Shows sub o ctx d ss rs →
      ∀ run, ∃ parts, templateParts source sub (escapeTicks (slotsText ss)) run =
          .ok (templateParts.literal run ++ parts) ∧
        evalParts o ctx d parts = .ok (renderSlots ss rs) := by
  intro ss rs hwf hr
  -- induction on the slots, each rendered by its own text
  induction hr with
  | nil => intro run; exact ⟨[], by simp [slotsText, templateParts], rfl⟩
  | @cons e t r ss rs x v hx hv hshow _ ih =>
    intro run
    obtain ⟨he, hlit⟩ := hwf (e, t) (List.mem_cons_self ..)
    obtain ⟨parts, htail, heval⟩ :=
      ih (fun s hs => hwf s (List.mem_cons_of_mem _ hs)) t.reverse
    refine ⟨.inr x :: (templateParts.literal t.reverse ++ parts), ?_, ?_⟩
    · rw [templateParts_slot ss he run, hx,
        templateParts_escapeTicks t hlit (head?_escapeTicks_slotsText ss), List.append_nil, htail]
      rfl
    · simp [evalParts, hv, hshow, evalParts_literal, heval, renderSlots, bind, Except.bind]
      rfl

/-- The body of an interpolation's template is split into parts that evaluate to its
interpolated text. -/
theorem templateParts_text {source : Text} {sub : Text → Except ParseError Expr}
    {o : Options} {ctx : Value} {d : Nat} (i : Interpolation) (hwf : i.WellFormed)
    {rs : List Text} (hr : Shows sub o ctx d i.slots rs) :
    ∃ parts, templateParts source sub (escapeTicks i.text) [] = .ok parts ∧
      evalParts o ctx d parts = .ok (i.render rs) := by
  obtain ⟨parts, hparts, heval⟩ := templateParts_slots hwf.2 hr i.head.reverse
  refine ⟨templateParts.literal i.head.reverse ++ parts, ?_, ?_⟩
  · rw [text, escapeTicks_append,
      templateParts_escapeTicks _ hwf.1 (head?_escapeTicks_slotsText _), List.append_nil, hparts]
  · rw [evalParts_literal, heval]
    simp [render, Functor.map, Except.map]

/-- The body of an interpolation's template fails where its first placeholder fails to
parse. -/
theorem templateParts_text_error {source : Text} {sub : Text → Except ParseError Expr}
    (i : Interpolation) (hwf : i.WellFormed) {e t : Text} {ss : List (Text × Text)}
    (hi : i.slots = (e, t) :: ss) {err : ParseError} (herr : sub e = .error err) :
    templateParts source sub (escapeTicks i.text) [] = .error err := by
  have hmem : (e, t) ∈ i.slots := by rw [hi]; exact List.mem_cons_self ..
  rw [text, escapeTicks_append,
    templateParts_escapeTicks _ hwf.1 (head?_escapeTicks_slotsText _), List.append_nil, hi,
    templateParts_slot ss (hwf.2 _ hmem).1, herr]
  rfl

theorem length_lt_template (i : Interpolation) {s : Text × Text} (hs : s ∈ i.slots) :
    s.1.length < (backtick :: (escapeTicks i.text ++ [backtick])).length := by
  have h1 := length_lt_slotsText hs
  have h2 := length_le_escapeTicks i.text
  simp [text] at h2 ⊢
  omega

theorem evaluateText_of_parse {o : Options} {t : Text} {ctx : Value} {E : Nat} {e : Expr}
    (h : Expr.parse (E + 3) t = .ok e) :
    o.evaluateText (marker :: t) ctx E = Formula.evaluate ⟨t, .expr e⟩ o ctx (E + 1) := by
  simp only [Options.evaluateText, Formula.parse, dropMarker, marker]
  rw [show E + 2 + 1 = E + 3 by omega, h]
  rfl

theorem evaluateText_of_parse_abort {o : Options} {t : Text} {ctx : Value} {E : Nat}
    {a : Abort} (h : Expr.parse (E + 3) t = .error (.abort a)) :
    o.evaluateText (marker :: t) ctx E = .error a := by
  simp only [Options.evaluateText, Formula.parse, dropMarker, marker]
  rw [show E + 2 + 1 = E + 3 by omega, h]
  rfl

/-- The expression text of an interpolation's template, evaluated at depth `E`, is its
interpolated text. -/
theorem evaluateText_template (o : Options) (ctx : Value) (E : Nat) (i : Interpolation)
    (hwf : i.WellFormed) {rs : List Text} (hr : Renders o ctx E i.slots rs)
    (room : E + 14 ≤ Stack.limit) :
    o.evaluateText (marker :: backtick :: (escapeTicks i.text ++ [backtick])) ctx E =
      .ok (.ok (.str (i.render rs))) := by
  -- the template's part parser agrees with the plain one on the placeholders, which are
  -- shorter than the template
  have hsub : Shows (partParser (backtick :: (escapeTicks i.text ++ [backtick])) (E + 3))
      o ctx (E + 6) i.slots rs := by
    refine Shows.congr hr fun s hs => ?_
    rw [partParser, if_pos (length_lt_template i hs)]
  obtain ⟨parts, hparts, heval⟩ := templateParts_text i hwf hsub
  have hparse : Expr.parse (E + 3) (backtick :: (escapeTicks i.text ++ [backtick])) =
      .ok (.template parts) := by
    rw [parse_template (E + 3) i.text (by omega), hparts]
    rfl
  rw [evaluateText_of_parse hparse]
  simp only [Formula.evaluate, eval, heval, Functor.map, Except.map]

/-- An interpolation whose first placeholder, parsed where the template parses its parts,
ends the request ends the template's evaluation, reported by the template. -/
theorem evaluateText_template_abort (o : Options) (ctx : Value) (E : Nat) {i : Interpolation}
    (hwf : i.WellFormed) {e t : Text} {ss : List (Text × Text)} (hi : i.slots = (e, t) :: ss)
    {a : Abort} (ha : Expr.parse (E + 13) e = .error (.abort a)) (room : E + 14 ≤ Stack.limit) :
    o.evaluateText (marker :: backtick :: (escapeTicks i.text ++ [backtick])) ctx E =
      .error a.inTemplate := by
  have hmem : (e, t) ∈ i.slots := by rw [hi]; exact List.mem_cons_self ..
  have hsub : partParser (backtick :: (escapeTicks i.text ++ [backtick])) (E + 3) e =
      .error (.abort a) := by
    rw [partParser, if_pos (length_lt_template i hmem)]
    exact ha
  have hparse : Expr.parse (E + 3) (backtick :: (escapeTicks i.text ++ [backtick])) =
      .error (.abort a.inTemplate) := by
    rw [parse_template (E + 3) i.text (by omega), templateParts_text_error i hwf hi hsub]
    rfl
  exact evaluateText_of_parse_abort hparse

/-- A document text that is an interpolation, resolved as expression text at depth `E`,
is its interpolated text. -/
theorem evaluateText_classify {o : Options} {ctx : Value} {E : Nat} {s : Text}
    {i : Interpolation} {rs : List Text} (hs : s.head? ≠ some marker)
    (hlit : (if Text.startsWith s [0x5C, 0x3D] then s.drop 1 else s) = i.text)
    (hwf : i.WellFormed) (hr : Renders o ctx E i.slots rs) (room : E + 14 ≤ Stack.limit) :
    o.evaluateText (classify s) ctx E = .ok (.ok (.str (i.render rs))) := by
  rw [classify_of_head_ne hs, hlit]
  exact evaluateText_template o ctx E i hwf hr room

end Interpolation

/-! ## The interpolation law -/

/-- Text assigned to a binding is classified and resolved as expression text, three frames
below the resolution. -/
theorem Binding.resolve_text (o : Options) (s : Text) (ctx : Value) (F : Nat) :
    (({ options := o } : Binding).assign (.value (.str s))).resolve ctx F =
      o.evaluateText (Document.classify s) ctx (F + 3) := rfl

namespace Interpolation

open Document

/-- **Interpolation law.** A text that does not start with the marker, less one backslash
before a leading `=`, cut into literal runs free of `${` and placeholders free of
backticks that end at the braces closing them, resolves to the runs joined with the
placeholders' shown values: assigned to a binding, and as a leaf of any tree walked from
its root, where every other leaf is resolved as it always is. Each placeholder parses,
evaluates and shows where the host handles it, deeper on the stack than the text. -/
theorem resolve_interpolation (o : Options) (ctx : Value) {s : Text} {i : Interpolation}
    {rs : List Text} (hs : s.head? ≠ some marker)
    (hlit : (if Text.startsWith s [0x5C, 0x3D] then s.drop 1 else s) = i.text)
    (hwf : i.WellFormed) :
    (∀ F, Renders o ctx (F + 3) i.slots rs → F + 17 ≤ Stack.limit →
      (({ options := o } : Binding).assign (.value (.str s))).resolve ctx F =
        .ok (.ok (.str (i.render rs)))) ∧
    (∀ T W, (∀ t, T ≠ .str t) →
      (∀ L, LeafAt (W + 1) L s T → Renders o ctx (L + 4) i.slots rs ∧ L + 18 ≤ Stack.limit) →
      walk o ctx T W = mapLeaves (fun L t => if t = s then .ok (.str (i.render rs))
        else leafValue o ctx (maxLeafDepth - 1) L t) (W + 1) T) := by
  refine ⟨fun F hr room => ?_, fun T W hT hleaves => ?_⟩
  · rw [Binding.resolve_text]
    exact evaluateText_classify hs hlit hwf hr (by omega)
  · rw [walk_eq_mapLeaves o ctx hT]
    refine mapLeaves_congr _ _ fun L t hl => ?_
    by_cases ht : t = s
    · subst ht
      obtain ⟨hr, room⟩ := hleaves L hl
      rw [if_pos rfl, leafValue, leafEvaluation,
        evaluateText_classify hs hlit hwf hr (by omega)]
      rfl
    · rw [if_neg ht]

/-- The interpolation law at `a${1}b`, resolved at depth 5. -/
theorem resolve_interpolation_one :
    ((Text.ofString "a${1}b").head? ≠ some marker ∧
      (if Text.startsWith (Text.ofString "a${1}b") [0x5C, 0x3D]
        then (Text.ofString "a${1}b").drop 1 else Text.ofString "a${1}b") =
          text ⟨[0x61], [([0x31], [0x62])]⟩ ∧
      WellFormed ⟨[0x61], [([0x31], [0x62])]⟩ ∧
      Renders Options.standard (.object []) (5 + 3) [([0x31], [0x62])] [[0x31]] ∧
      5 + 17 ≤ Stack.limit) ∧
    (({ options := Options.standard } : Binding).assign
        (.value (.str (Text.ofString "a${1}b")))).resolve (.object []) 5 =
      .ok (.ok (.str (render ⟨[0x61], [([0x31], [0x62])]⟩ [[0x31]]))) := by
  have hs : (Text.ofString "a${1}b").head? ≠ some marker := by decide
  have hlit : (if Text.startsWith (Text.ofString "a${1}b") [0x5C, 0x3D]
      then (Text.ofString "a${1}b").drop 1 else Text.ofString "a${1}b") =
        text ⟨[0x61], [([0x31], [0x62])]⟩ := by decide
  have hwf : WellFormed ⟨[0x61], [([0x31], [0x62])]⟩ := by
    refine ⟨by simp only [IsLiteral, opener]; decide, ?_⟩
    simp only [List.mem_singleton, forall_eq]
    exact ⟨⟨by decide, by decide⟩, by simp only [IsLiteral, opener]; decide⟩
  have hx : Expr.parse (5 + 3 + 13) [0x31] = .ok (.lit (.int 1)) :=
    eq_ok_of_match_int (by decide +kernel)
  have hshow : (Value.int 1).shownText (5 + 3 + 6) = .ok [0x31] :=
    eq_ok_of_toOption (by decide +kernel)
  have hr : Renders Options.standard (.object []) (5 + 3) [([0x31], [0x62])] [[0x31]] :=
    .cons (.lit (.int 1)) (.int 1) hx rfl hshow .nil
  exact ⟨⟨hs, hlit, hwf, hr, by decide⟩,
    (resolve_interpolation Options.standard (.object []) hs hlit hwf).1 5 hr (by decide)⟩

/-- A placeholder that parses and evaluates to `1` on its own, 488 minus signs deep, runs
out of stack inside a template: the resolution of `${---…1}` fails as a whole. -/
theorem resolve_deep_placeholder :
    (Options.standard.evaluateText (0x3D :: (List.replicate 488 0x2D ++ [0x31])) (.object [])
        4).toOption.bind (fun r => r.toOption.bind Value.toText) = some [0x31] ∧
    (({} : Binding).assign
        (.value (.str (opener ++ (List.replicate 488 0x2D ++ [0x31]) ++ [0x7D])))).resolve
        (.object []) 5 =
      .error (Abort.inTemplate (.stack [])) := by
  refine ⟨by decide +kernel, ?_⟩
  -- inside the template the placeholder is parsed at depth 21, not 7
  have hparse : Expr.parse (8 + 13) (List.replicate 488 0x2D ++ [0x31]) =
      .error (.abort (.stack [])) :=
    eq_error_of_match (by decide +kernel)
  have hwf : WellFormed ⟨[], [(List.replicate 488 0x2D ++ [0x31], [])]⟩ := by
    refine ⟨by simp [IsLiteral, opener], ?_⟩
    simp only [List.mem_singleton, forall_eq]
    exact ⟨⟨by decide +kernel, by decide +kernel⟩, by simp [IsLiteral, opener]⟩
  have hlit : (if Text.startsWith (opener ++ (List.replicate 488 0x2D ++ [0x31]) ++ [0x7D])
        [0x5C, 0x3D] then (opener ++ (List.replicate 488 0x2D ++ [0x31]) ++ [0x7D]).drop 1
      else opener ++ (List.replicate 488 0x2D ++ [0x31]) ++ [0x7D]) =
        text ⟨[], [(List.replicate 488 0x2D ++ [0x31], [])]⟩ := by
    decide +kernel
  rw [Binding.resolve_text, classify_of_head_ne (by decide +kernel), hlit]
  exact evaluateText_template_abort Options.standard (.object []) 8 hwf rfl hparse (by decide)

/-- A literal text without placeholders resolves to itself, less one backslash before a
leading `=`, whatever backticks, backslashes, braces and dollars it holds. -/
theorem resolve_literal_text (o : Options) (ctx : Value) {s : Text}
    (hs : s.head? ≠ some marker)
    (hlit : IsLiteral (if Text.startsWith s [0x5C, 0x3D] then s.drop 1 else s)) (F : Nat)
    (room : F + 17 ≤ Stack.limit) :
    (({ options := o } : Binding).assign (.value (.str s))).resolve ctx F =
      .ok (.ok (.str (if Text.startsWith s [0x5C, 0x3D] then s.drop 1 else s))) := by
  have hwf : WellFormed ⟨if Text.startsWith s [0x5C, 0x3D] then s.drop 1 else s, []⟩ :=
    ⟨hlit, by simp⟩
  have hr : Renders o ctx (F + 3) [] [] := .nil
  rw [Binding.resolve_text, evaluateText_classify hs (by simp [text, slotsText]) hwf hr (by omega)]
  simp [render, renderSlots]

end Interpolation

end Templating
