import Templating.Proofs.JsonReading
/-!
# Splitting a text and joining the pieces

`split(s, t)` cuts the text `s` at the interpolation text of `t`: into its code points
when that text is empty, and otherwise at the occurrences of the separator found scanning
left to right, without overlap (`Text.Cuts`): the first piece runs up to the first
occurrence, and the rest after that occurrence is cut again. `join(xs, t)` puts the
interpolation text of `t` between the interpolation texts of the items. Cut pieces joined
with their separator give the text back (`Text.Cuts.join_eq`), so `join(split(s, t), t)`
is `s` for every text `s` and every `t` with an interpolation text.

Both builtins compute the text of `t` on the host, and `split`, evaluated as an argument
of `join`, does it two frames deeper than `join` itself: a `t` that nests deeply enough
to run out of stack there fails, though its text can be shown from the depth of the
expression (`split_join_deep_separator`).

Main statements:

    stripPrefix? p t = some r ↔ t = p ++ r                           (stripPrefix?_eq_some_iff)
    Cuts sep t ps → join sep ps = t                                   (Cuts.join_eq)
    Splits sep t (splitOn t sep)                                      (splits_splitOn)
    s ↦ str s, t ↦ t, t.toText = some sep →
      join(split(s, t), t) ↦ s, when the stack has room for the text of t
                                                                      (split_join_round_trip)
-/

namespace Templating

namespace Text

/-! ## Prefixes -/

theorem stripPrefix?_eq_some_iff {p t r : Text} : stripPrefix? p t = some r ↔ t = p ++ r := by
  induction p generalizing t with
  | nil => simp [eq_comm]
  | cons d p ih =>
    cases t with
    | nil => simp [stripPrefix?]
    | cons c t =>
      simp only [stripPrefix?, List.cons_append, List.cons.injEq]
      by_cases h : d = c
      · rw [if_pos h, ih, h]
        simp
      · rw [if_neg h]
        simp only [reduceCtorEq, false_iff, not_and]
        exact fun hc => absurd hc.symm h

theorem stripPrefix?_eq_none_iff {p t : Text} : stripPrefix? p t = none ↔ ¬ p <+: t := by
  rw [List.prefix_iff_exists_append_eq, Option.eq_none_iff_forall_ne_some]
  simp only [ne_eq, stripPrefix?_eq_some_iff, not_exists]
  exact forall_congr' fun r => ⟨fun h e => h e.symm, fun h e => h e.symm⟩

/-! ## Cutting at a separator -/

/-- The cuts of a text at a non-empty separator, scanning left to right without overlap:
a text in which the separator does not occur is one piece; otherwise the first piece runs
up to the first occurrence of the separator, and the rest after that occurrence is cut
again. -/
inductive Cuts (sep : Text) : Text → List Text → Prop
  | whole {t : Text} : (∀ i, ¬ sep <+: t.drop i) → Cuts sep t [t]
  | cut {p r : Text} {ps : List Text} : (∀ i < p.length, ¬ sep <+: (p ++ sep ++ r).drop i) →
      Cuts sep r ps → Cuts sep (p ++ sep ++ r) (p :: ps)

/-- How a text is split: into its code points by the empty separator, and into its cuts by
any other. -/
def Splits (sep t : Text) (pieces : List Text) : Prop :=
  if sep = [] then pieces = t.map fun c => [c] else Cuts sep t pieces

theorem Cuts.ne_nil {sep t : Text} {ps : List Text} (h : Cuts sep t ps) : ps ≠ [] := by
  cases h <;> simp

/-- Cut pieces joined with their separator give the text back. -/
theorem Cuts.join_eq {sep t : Text} {ps : List Text} (h : Cuts sep t ps) : join sep ps = t := by
  induction h with
  | whole _ => exact List.intercalate_singleton
  | cut _ hr ih =>
    rw [join, List.intercalate_cons_of_ne_nil hr.ne_nil, ← join, ih, List.append_assoc]

theorem join_nil_singletons (t : Text) : join [] (t.map fun c => [c]) = t := by
  induction t with
  | nil => rfl
  | cons c t ih =>
    cases t with
    | nil => rfl
    | cons c' t =>
      rw [List.map_cons, join, List.intercalate_cons_of_ne_nil (by simp), ← join, ih]
      rfl

/-- The scan of `splitNonempty` cuts what it has collected followed by what is left, as
long as the separator starts nowhere in what it has collected: the collected code points
are the start of the current piece. -/
theorem cuts_splitNonempty {sep : Text} (hsep : sep ≠ []) (cur t : Text)
    (hcur : ∀ i < cur.length, ¬ sep <+: (cur.reverse ++ t).drop i) :
    Cuts sep (cur.reverse ++ t) (splitNonempty sep hsep cur t) := by
  induction cur, t using splitNonempty.induct sep hsep with
  | case1 cur =>
    rw [splitNonempty, List.append_nil]
    refine .whole fun i hi => ?_
    by_cases hlt : i < cur.length
    · exact hcur i hlt (by rwa [List.append_nil])
    · rw [List.drop_eq_nil_of_le (by simpa using hlt)] at hi
      exact hsep (List.prefix_nil.1 hi)
  | case2 cur c rest r hr _ ih =>
    rw [splitNonempty]
    split
    · next r' hr' =>
      obtain rfl : r' = r := Option.some.inj (hr'.symm.trans hr)
      show Cuts sep (cur.reverse ++ c :: rest) (cur.reverse :: splitNonempty sep hsep [] r')
      rw [stripPrefix?_eq_some_iff.1 hr] at hcur ⊢
      rw [← List.append_assoc]
      refine .cut (fun i hi => ?_) (ih fun i hi => absurd hi (Nat.not_lt_zero i))
      rw [List.append_assoc]
      exact hcur i (by simpa using hi)
    · next hr' => exact absurd (hr'.symm.trans hr) (by simp)
  | case3 cur c rest hr ih =>
    rw [splitNonempty]
    split
    · next r' hr' => exact absurd (hr'.symm.trans hr) (by simp)
    have h := ih fun i hi => by
      rw [List.reverse_cons, List.append_assoc, List.singleton_append]
      rcases Nat.lt_or_ge i cur.length with hlt | hge
      · exact hcur i hlt
      · have hi' : i = cur.length := by simp at hi; omega
        rw [hi', List.drop_left' (List.length_reverse)]
        exact stripPrefix?_eq_none_iff.1 hr
    rwa [List.reverse_cons, List.append_assoc, List.singleton_append] at h

/-- `splitOn` splits as `Splits` says. -/
theorem splits_splitOn (t sep : Text) : Splits sep t (splitOn t sep) := by
  unfold Splits splitOn
  split
  · rfl
  · next hsep =>
    simpa using cuts_splitNonempty hsep [] t fun i hi => absurd hi (Nat.not_lt_zero i)

theorem join_splitOn (t sep : Text) : join sep (splitOn t sep) = t := by
  have h := splits_splitOn t sep
  unfold Splits at h
  split at h
  · next hsep => rw [h, hsep]; exact join_nil_singletons t
  · exact h.join_eq

end Text

/-! ## The builtins -/

namespace Value

theorem shownText_of_toText {v : Value} {t : Text} (h : v.toText = some t) (frame : Nat) :
    v.shownText frame =
      if v.overflowsAt (frame + 1) then .error (.abort (.stack Stack.comparing)) else .ok t := by
  simp only [shownText, h]

theorem overflowsAt_iff (frame : Nat) (v : Value) :
    v.overflowsAt frame = true ↔ 0 < v.nativeFrames ∧ Stack.limit < frame + v.nativeFrames + 2 := by
  simp [overflowsAt]

theorem shownTexts_strs (frame : Nat) (pieces : List Text) :
    Builtin.shownTexts frame (pieces.map .str) = .ok pieces := by
  induction pieces with
  | nil => rfl
  | cons p ps ih =>
    simp only [Builtin.shownTexts, List.map_cons, List.mapM_cons] at ih ⊢
    rw [show (Value.str p).shownText frame = .ok p from rfl, ih]
    rfl

end Value

namespace Builtin

theorem apply_split (frame : Nat) (v s : Value) :
    apply frame .split [v, s] = splitText frame v s := rfl

theorem apply_join (frame : Nat) (v s : Value) :
    apply frame .join [v, s] = joinTexts frame v s := rfl

theorem apply_split_text (frame : Nat) (s : Text) {t : Value} {sep : Text}
    (hsep : t.toText = some sep) :
    apply frame .split [.str s, t] =
      if t.overflowsAt (frame + 2) then .error (.abort (.stack Stack.comparing))
      else .ok (.list ((Text.splitOn s sep).map .str)) := by
  rw [apply_split, splitText, text, Value.shownText_of_toText hsep]
  split <;> rfl

theorem apply_join_texts (frame : Nat) (pieces : List Text) {t : Value} {sep : Text}
    (hsep : t.toText = some sep) :
    apply frame .join [.list (pieces.map .str), t] =
      if t.overflowsAt (frame + 2) then .error (.abort (.stack Stack.comparing))
      else .ok (.str (Text.join sep pieces)) := by
  rw [apply_join, joinTexts, Value.shownText_of_toText hsep]
  split
  · rfl
  · simp only [bind, Except.bind, Value.shownTexts_strs]
    rfl

end Builtin

/-! ## The round trip -/

theorem Expr.eval_call_pair (o : Options) (ctx : Value) (d : Nat) (fn : Builtin) (e₁ e₂ : Expr) :
    (Expr.call fn [e₁, e₂]).eval o ctx d =
      (e₁.eval o ctx (d + 2)).bind fun v₁ => (e₂.eval o ctx (d + 2)).bind fun v₂ =>
        Builtin.apply (d + 1) fn [v₁, v₂] := by
  simp only [Expr.eval, Expr.evalList]
  cases e₁.eval o ctx (d + 2) with
  | error err => rfl
  | ok v₁ =>
    cases e₂.eval o ctx (d + 2) with
    | error err => rfl
    | ok v₂ => rfl

theorem Expr.eval_call_one (o : Options) (ctx : Value) (d : Nat) (fn : Builtin) (e : Expr) :
    (Expr.call fn [e]).eval o ctx d =
      (e.eval o ctx (d + 2)).bind fun v => Builtin.apply (d + 1) fn [v] := by
  simp only [Expr.eval, Expr.evalList]
  cases e.eval o ctx (d + 2) with
  | error err => rfl
  | ok v => rfl

/-- **Joining the pieces of a split gives the text back.** For a text `s` and a value `t`
whose interpolation text is `sep`, `split(s, t)` gives the code points of `s` when `sep`
is empty and its cuts at `sep` otherwise, and `join(split(s, t), t)` gives `s` again, as
long as the host's stack has room for `split` to turn `t` into plain data: that takes the
frames of `t` below the seven the two calls take from the depth of the expression. -/
theorem split_join_round_trip {o : Options} {ctx : Value} {d : Nat} {es et : Expr} {s sep : Text}
    {t : Value} (hs : es.eval o ctx (d + 4) = .ok (.str s)) (ht : et.eval o ctx (d + 4) = .ok t)
    (ht' : et.eval o ctx (d + 2) = .ok t) (hsep : t.toText = some sep) :
    (Expr.call .split [es, et]).eval o ctx (d + 2) =
        (if t.nativeFrames = 0 ∨ d + 7 + t.nativeFrames ≤ Stack.limit then
          .ok (.list ((Text.splitOn s sep).map .str))
        else .error (.abort (.stack Stack.comparing))) ∧
      Text.Splits sep s (Text.splitOn s sep) ∧
      (Expr.call .join [.call .split [es, et], et]).eval o ctx d =
        if t.nativeFrames = 0 ∨ d + 7 + t.nativeFrames ≤ Stack.limit then .ok (.str s)
        else .error (.abort (.stack Stack.comparing)) := by
  have hsplit : (Expr.call .split [es, et]).eval o ctx (d + 2) =
      if t.overflowsAt (d + 5) then .error (.abort (.stack Stack.comparing))
      else .ok (.list ((Text.splitOn s sep).map .str)) := by
    rw [Expr.eval_call_pair, hs, ht]
    exact Builtin.apply_split_text (d + 3) s hsep
  have hfits : t.overflowsAt (d + 5) = false ↔
      (t.nativeFrames = 0 ∨ d + 7 + t.nativeFrames ≤ Stack.limit) := by
    rw [← Bool.not_eq_true, Value.overflowsAt_iff]
    omega
  refine ⟨?_, Text.splits_splitOn s sep, ?_⟩
  · rw [hsplit]
    by_cases hroom : t.overflowsAt (d + 5)
    · rw [if_pos hroom, if_neg (by rw [← hfits, hroom]; decide)]
    · rw [if_neg hroom, if_pos (hfits.1 (by simpa using hroom))]
  · rw [Expr.eval_call_pair, hsplit, ht']
    by_cases hroom : t.overflowsAt (d + 5)
    · rw [if_pos hroom, if_neg (by rw [← hfits, hroom]; decide)]
      rfl
    · have hjoin : t.overflowsAt (d + 3) = false := by
        rw [Value.overflowsAt_iff] at hroom
        rw [← Bool.not_eq_true, Value.overflowsAt_iff]
        omega
      rw [if_neg hroom, if_pos (hfits.1 (by simpa using hroom))]
      simp only [Except.bind]
      rw [Builtin.apply_join_texts (d + 1) _ hsep, hjoin, Text.join_splitOn]
      rfl

/-- Splitting by a two-character separator cuts at its occurrences without overlap, an
empty piece between two adjacent ones, and joining by it restores the text. -/
theorem split_join_round_trip_pair :
    let s := Text.ofString "a--b----c"
    let t := Value.str (Text.ofString "--")
    (Expr.lit (.str s)).eval Options.standard .null (7 + 4) = .ok (.str s) ∧
      (Expr.lit t).eval Options.standard .null (7 + 4) = .ok t ∧
      (Expr.lit t).eval Options.standard .null (7 + 2) = .ok t ∧
      t.toText = some (Text.ofString "--") ∧
      ((Expr.call .split [.lit (.str s), .lit t]).eval Options.standard .null (7 + 2) =
          (if t.nativeFrames = 0 ∨ 7 + 7 + t.nativeFrames ≤ Stack.limit then
            .ok (.list ((Text.splitOn s (Text.ofString "--")).map .str))
          else .error (.abort (.stack Stack.comparing))) ∧
        Text.Splits (Text.ofString "--") s (Text.splitOn s (Text.ofString "--")) ∧
        (Expr.call .join [.call .split [.lit (.str s), .lit t], .lit t]).eval
            Options.standard .null 7 =
          if t.nativeFrames = 0 ∨ 7 + 7 + t.nativeFrames ≤ Stack.limit then .ok (.str s)
          else .error (.abort (.stack Stack.comparing))) :=
  ⟨rfl, rfl, rfl, rfl, split_join_round_trip rfl rfl rfl rfl⟩

/-- **A separator nesting too deeply for `split` is shown by `string`, yet the round trip
fails.** A list nested 494 levels deep has an interpolation text, and `string` shows it
from the depth of an expression; inside `join(split(s, t), t)`, `split` turns it into
plain data two frames further down and runs out of stack. -/
theorem split_join_deep_separator :
    let ctx := Value.object
      [(Text.ofString "s", .str (Text.ofString "a")), (Text.ofString "t", Value.nestedList 493)]
    (Value.nestedList 493).toText.isSome ∧
      ((Expr.call .string [.var (Text.ofString "t")]).eval Options.standard ctx 7).toOption.isSome ∧
      (Expr.call .join [.call .split [.var (Text.ofString "s"), .var (Text.ofString "t")],
          .var (Text.ofString "t")]).eval Options.standard ctx 7 =
        .error (.abort (.stack Stack.comparing)) := by
  intro ctx
  have hdata := Value.jsonData_nestedList 493
  obtain ⟨text, htext, -⟩ := hdata.write_readsAs
  have hframes := Value.nativeFrames_nestedList 493
  have htoText : (Value.nestedList 493).toText = some text := by
    have htree := hdata.toTree_eq
    have hlist : Value.nestedList 493 = .list [Value.nestedList 492] := rfl
    rw [hlist] at htree htext ⊢
    unfold Value.toText
    simp only [htree]
    exact htext
  have hs : ∀ f, (Expr.var (Text.ofString "s")).eval Options.standard ctx f =
      .ok (.str (Text.ofString "a")) := fun _ => rfl
  have ht : ∀ f, (Expr.var (Text.ofString "t")).eval Options.standard ctx f =
      .ok (Value.nestedList 493) := fun _ => rfl
  refine ⟨by rw [htoText]; rfl, ?_, ?_⟩
  · -- shown from the depth of the expression, the list just fits
    have hfits : (Value.nestedList 493).overflowsAt (7 + 1 + 1 + 1) = false := by
      rw [← Bool.not_eq_true, Value.overflowsAt_iff, hframes]
      decide
    rw [Expr.eval_call_one, ht, Except.bind, Builtin.apply_string,
      Value.shownText_of_toText htoText, hfits]
    rfl
  · -- `split` shows it two frames further down, where it does not
    have hover : (Value.nestedList 493).overflowsAt (7 + 2 + 1 + 2) = true := by
      rw [Value.overflowsAt_iff, hframes]
      decide
    rw [Expr.eval_call_pair, Expr.eval_call_pair, hs, ht, Except.bind, Except.bind,
      Builtin.apply_split_text _ _ htoText, hover]
    rfl

end Templating
