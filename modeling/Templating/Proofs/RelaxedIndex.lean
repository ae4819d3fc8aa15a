import Templating.Eval.Evaluate
/-!
# Relaxed indexing only turns failures into values

The options of evaluation say whether an index outside a sequence fails (strict) or
reads `null` (relaxed). Only `Value.item` reads that choice, and where strict indexing
gives a value, relaxed indexing gives the same one (`Value.keeps_item`). Every other step
of evaluation, the lazy `&&`, `||` and `if` and the substitution of paths that read `null`
among them, reads the same options in both runs, so by induction on the expression a
relaxed run keeps every value of the strict run (`Expr.keeps_eval`).

The relation between the two runs is `Keeps x y`: every value `x` gives, `y` gives too.

Main statements:

    eval {strictIndex := true, substitute} ctx d e = ok v →
      eval {strictIndex := false, substitute} ctx d e = ok v      (eval_relaxed_of_strict)
-/

namespace Templating

/-- `Keeps x y`: the second result gives every value the first one gives; where the first
fails, the second may fail or give a value. -/
def Keeps {α : Type} (x y : Except EvalError α) : Prop := ∀ v, x = .ok v → y = .ok v

namespace Keeps

variable {α β : Type}

theorem refl (x : Except EvalError α) : Keeps x x := fun _ h => h

theorem bind {x x' : Except EvalError α} {f g : α → Except EvalError β} (hx : Keeps x x')
    (hf : ∀ a, Keeps (f a) (g a)) : Keeps (x >>= f) (x' >>= g) := by
  intro v h
  cases x with
  | error e => cases h
  | ok a =>
    rw [hx a rfl]
    exact hf a v h

theorem map {x x' : Except EvalError α} (hx : Keeps x x') (f : α → β) :
    Keeps (f <$> x) (f <$> x') := by
  intro v h
  cases x with
  | error e => cases h
  | ok a =>
    rw [hx a rfl]
    exact h

theorem ite {c : Prop} [Decidable c] {x x' y y' : Except EvalError α} (hx : Keeps x x')
    (hy : Keeps y y') : Keeps (if c then x else y) (if c then x' else y') := by
  split
  · exact hx
  · exact hy

end Keeps

/-- Relaxed indexing only turns a position outside the sequence from a failure into
`null`; every value of a strict read is the value of the relaxed one. -/
theorem Value.keeps_item (target index : Value) :
    Keeps (Value.item true target index) (Value.item false target index) := by
  intro v h
  unfold Value.item at h ⊢
  -- the two reads differ only past the end of a sequence, where the strict one fails
  repeat' split at h
  all_goals simp_all

namespace Expr

variable (substitute : Option (Text → Except Text Value)) (ctx : Value)

@[simp] theorem fill_relaxed :
    Options.fill { strictIndex := false, substitute } =
      Options.fill { strictIndex := true, substitute } := rfl

mutual

/-- **A relaxed run keeps the values of a strict run**, node by node: each node reads its
children in both runs alike, and an index reads its item as `Value.keeps_item` says. -/
theorem keeps_eval : ∀ (frame : Nat) (e : Expr),
    Keeps (e.eval { strictIndex := true, substitute } ctx frame)
      (e.eval { strictIndex := false, substitute } ctx frame)
  | _, .lit _ | _, .var _ => by simp only [eval, fill_relaxed]; exact .refl _
  | frame, .member t _ => by
    simp only [eval, fill_relaxed]
    exact (keeps_eval (frame + 1) t).bind fun _ => .refl _
  | frame, .index t k => by
    simp only [eval]
    exact (keeps_eval (frame + 1) t).bind fun v => (keeps_eval (frame + 1) k).bind fun i =>
      (Value.keeps_item v i).map _
  | frame, .call _ args => by
    simp only [eval]
    exact (keeps_evalList (frame + 2) args).bind fun _ => .refl _
  | frame, .cond c a b => by
    -- the test gives the same value in both runs, so both take the same branch
    simp only [eval]
    exact (keeps_eval (frame + 1) c).bind fun _ =>
      .ite (keeps_eval (frame + 1) a) (keeps_eval (frame + 1) b)
  | frame, .array items => by
    simp only [eval]
    exact (keeps_evalList (frame + 2) items).map _
  | frame, .object fields => by
    simp only [eval]
    exact (keeps_evalFields (frame + 2) fields).map _
  | frame, .template parts => by
    simp only [eval]
    exact (keeps_evalParts (frame + 3) parts).map _
  | frame, .not e => by
    simp only [eval]
    exact (keeps_eval (frame + 1) e).map _
  | frame, .negate e | frame, .plus e => by
    simp only [eval]
    exact (keeps_eval (frame + 1) e).bind fun _ => .refl _
  | frame, .and l r => by
    simp only [eval]
    exact (keeps_eval (frame + 1) l).bind fun _ =>
      .ite ((keeps_eval (frame + 1) r).map _) (.refl _)
  | frame, .or l r => by
    simp only [eval]
    exact (keeps_eval (frame + 1) l).bind fun _ =>
      .ite (.refl _) ((keeps_eval (frame + 1) r).map _)
  | frame, .binary _ l r => by
    simp only [eval]
    exact (keeps_eval (frame + 1) l).bind fun _ => (keeps_eval (frame + 1) r).bind fun _ =>
      .refl _

theorem keeps_evalList : ∀ (frame : Nat) (es : List Expr),
    Keeps (evalList { strictIndex := true, substitute } ctx frame es)
      (evalList { strictIndex := false, substitute } ctx frame es)
  | _, [] => .refl _
  | frame, e :: es => by
    simp only [evalList]
    exact (keeps_eval frame e).bind fun _ => (keeps_evalList frame es).bind fun _ => .refl _

theorem keeps_evalFields : ∀ (frame : Nat) (fs : List (Text × Expr)),
    Keeps (evalFields { strictIndex := true, substitute } ctx frame fs)
      (evalFields { strictIndex := false, substitute } ctx frame fs)
  | _, [] => .refl _
  | frame, (_, e) :: fs => by
    simp only [evalFields]
    exact (keeps_eval frame e).bind fun _ => (keeps_evalFields frame fs).bind fun _ => .refl _

theorem keeps_evalParts : ∀ (frame : Nat) (ps : List (Text ⊕ Expr)),
    Keeps (evalParts { strictIndex := true, substitute } ctx frame ps)
      (evalParts { strictIndex := false, substitute } ctx frame ps)
  | _, [] => .refl _
  | frame, .inl _ :: ps => by
    simp only [evalParts]
    exact (keeps_evalParts frame ps).map _
  | frame, .inr e :: ps => by
    simp only [evalParts]
    exact (keeps_eval frame e).bind fun _ => (Keeps.refl _).bind fun _ =>
      (keeps_evalParts frame ps).bind fun _ => .refl _

end

end Expr

/-- **Relaxed indexing only turns failures into values.** An expression that evaluates to
a value with strict indexing evaluates to the same value with relaxed indexing, under any
substitution of paths, against any context and from any depth of the host's stack. -/
theorem eval_relaxed_of_strict {substitute : Option (Text → Except Text Value)} {ctx : Value}
    {frame : Nat} {e : Expr} {v : Value}
    (h : e.eval { strictIndex := true, substitute } ctx frame = .ok v) :
    e.eval { strictIndex := false, substitute } ctx frame = .ok v :=
  Expr.keeps_eval substitute ctx frame e v h

/-- The last item of a list read by a negative index, one item a name that reads `null`
and is substituted: the strict and the relaxed run both give the substitute. -/
theorem eval_relaxed_of_strict_last :
    (Expr.index (.array [.lit (.int 10), .var (Text.ofString "x")]) (.lit (.int (-1)))).eval
        { strictIndex := true, substitute := some fun _ => .ok (.int 7) } .null 0 =
      .ok (.int 7) ∧
    (Expr.index (.array [.lit (.int 10), .var (Text.ofString "x")]) (.lit (.int (-1)))).eval
        { strictIndex := false, substitute := some fun _ => .ok (.int 7) } .null 0 =
      .ok (.int 7) :=
  have h : (Expr.index (.array [.lit (.int 10), .var (Text.ofString "x")])
      (.lit (.int (-1)))).eval { strictIndex := true, substitute := some fun _ => .ok (.int 7) }
        .null 0 = .ok (.int 7) := rfl
  ⟨h, eval_relaxed_of_strict h⟩

end Templating
