import Templating.Binding
import Templating.Proofs.Walk
/-!
# Containment: which failures reach the caller

Resolving a binding, or walking a tree, gives an outcome (a value, or the message of a
failure) or ends the request with an `Abort`. Almost every failure is contained in the
outcome: a parse error, an evaluation error, a failing host function. Two kinds are not:

* the host runs out of stack (`Abort.stack`, under the rules that report it);
* an integer literal of an expression text has more than `digitLimit` digits
  (`Abort.digits`), which the rule that builds numbers reports.

`Abort.Escapes` names these two kinds, and this module proves that no other failure ever
reaches the caller: evaluation ends the request only on the stack (`StackOnly`, proved
of every builtin and operator, then of `Expr.eval`), parsing only on the stack or a long
literal (`Escaping`, proved of the builder, then of `Expr.parse`), and resolution and
walks only with what these let through. A walk keeps the text of every leaf whose
resolution reports a failure, and succeeds when each of its leaves does.

Main statements:

    b.resolve ctx F = error a → a.Escapes                     (Binding.resolve_escapes)
    walk o ctx T W = error a → a.Escapes                      (Document.walk_escapes)
-/

namespace Templating

/-! ## Failures that escape -/

namespace Abort

/-- A failure that may reach the caller: the host ran out of stack, or an integer literal
had more digits than the limit. -/
def Escapes (a : Abort) : Prop :=
  a.cause.isStack = true ∨ ∃ n, a.cause = .digits n ∧ digitLimit < n

@[simp] theorem escapes_inRule {rule : Text} {a : Abort} : (inRule rule a).Escapes ↔ a.Escapes :=
  Iff.rfl

theorem escapes_of_isStack {a : Abort} (h : a.isStack = true) : a.Escapes := by
  left
  cases a <;> simp_all [isStack, cause]

@[simp] theorem escapes_stack (site : Text) : (stack site).Escapes :=
  escapes_of_isStack rfl

end Abort

/-! ## Computations whose aborts are contained -/

section Contained

variable {ε α β : Type} {wrap : Abort → ε} {P : Abort → Prop}

/-- A computation that ends the request, with an error `wrap a`, only for an `a` that `P`
allows. -/
@[irreducible] def Contained (wrap : Abort → ε) (P : Abort → Prop) (x : Except ε α) : Prop :=
  ∀ a, x = .error (wrap a) → P a

namespace Contained

theorem abort {x : Except ε α} {a : Abort} (h : Contained wrap P x)
    (hx : x = .error (wrap a)) : P a := by
  unfold Contained at h
  exact h a hx

@[simp] theorem ok (v : α) : Contained wrap P (.ok v : Except ε α) := by
  simp [Contained]

@[simp] theorem pure (v : α) : Contained wrap P (Pure.pure v : Except ε α) := by
  simp [Pure.pure, Except.pure]

@[simp] theorem error {e : ε} :
    Contained wrap P (.error e : Except ε α) ↔ ∀ a, e = wrap a → P a := by
  simp [Contained]

@[simp] theorem bind {x : Except ε α} {f : α → Except ε β} :
    Contained wrap P (x >>= f) ↔ Contained wrap P x ∧ ∀ v, x = .ok v → Contained wrap P (f v) := by
  cases x <;> simp [Contained, Bind.bind, Except.bind]

@[simp] theorem map {x : Except ε α} {f : α → β} :
    Contained wrap P (f <$> x) ↔ Contained wrap P x := by
  cases x <;> simp [Functor.map, Except.map]

@[simp] theorem exceptMap {x : Except ε α} {f : α → β} :
    Contained wrap P (x.map f) ↔ Contained wrap P x := by
  cases x <;> simp [Except.map]

@[simp] theorem ite {c : Prop} [Decidable c] {x y : Except ε α} :
    Contained wrap P (if c then x else y) ↔
      (c → Contained wrap P x) ∧ (¬ c → Contained wrap P y) := by
  by_cases h : c <;> simp [h]

theorem mapM {f : β → Except ε α} :
    ∀ {xs : List β}, (∀ x ∈ xs, Contained wrap P (f x)) → Contained wrap P (xs.mapM f)
  | [], _ => by simp
  | x :: xs, h => by
    simp only [List.mapM_cons, bind, pure, implies_true, and_true]
    exact ⟨h x (List.mem_cons_self ..),
      fun _ _ => mapM fun y hy => h y (List.mem_cons_of_mem _ hy)⟩

theorem foldlM {f : α → β → Except ε α} (hf : ∀ acc x, Contained wrap P (f acc x)) :
    ∀ (xs : List β) (init : α), Contained wrap P (xs.foldlM f init)
  | [], _ => by simp
  | x :: xs, init => by
    simp only [List.foldlM_cons, bind]
    exact ⟨hf init x, fun v _ => foldlM hf xs v⟩

/-- Failures renamed into errors that are no abort never end the request. -/
theorem mapError {ε' : Type} {g : ε' → ε} (hg : ∀ e a, g e ≠ wrap a) {x : Except ε' α} :
    Contained wrap P (x.mapError g) := by
  cases x with
  | error e => exact error.2 fun a h => absurd h (hg e a)
  | ok v => exact ok v

end Contained

end Contained

/-! ## Evaluation ends the request only on the stack -/

section StackOnly

variable {α : Type}

/-- An evaluation that ends the request only when the host's stack runs out. -/
abbrev StackOnly (x : Except EvalError α) : Prop :=
  Contained EvalError.abort (fun a => a.isStack = true) x

@[simp] theorem StackOnly.mapError_arith {x : Except ArithError α} :
    StackOnly (x.mapError .arith) :=
  Contained.mapError fun _ _ => EvalError.noConfusion

@[simp] theorem StackOnly.mapError_host {x : Except Text α} : StackOnly (x.mapError .host) :=
  Contained.mapError fun _ _ => EvalError.noConfusion

@[simp high] theorem EvalError.stackOnly_showing {frame : Nat} {e : EvalError}
    (he : StackOnly (.error e : Except EvalError α)) (vs : List Value) :
    StackOnly (.error (EvalError.showing frame vs e) : Except EvalError α) := by
  induction vs with
  | nil => exact he
  | cons v vs ih =>
    simp only [EvalError.showing]
    split
    · simp [Abort.isStack]
    · split
      · exact he
      · exact ih

end StackOnly

/-! ### Operators and reads -/

namespace Value

@[simp] theorem stackOnly_shownText (frame : Nat) (v : Value) : StackOnly (v.shownText frame) := by
  unfold shownText
  split
  · simp [Abort.isStack]
  · split <;> simp

@[simp] theorem stackOnly_signed (frame : Nat) (sign : Int) (v : Value) :
    StackOnly (v.signed frame sign) := by
  unfold signed
  split <;> simp

@[simp] theorem stackOnly_plus (frame : Nat) (l r : Value) : StackOnly (plus frame l r) := by
  unfold plus
  split
  · simp
  · split <;> simp

@[simp] theorem stackOnly_intPower (a b : Int) : StackOnly (intPower a b) := by
  unfold intPower
  repeat' split
  all_goals simp

@[simp] theorem stackOnly_arithmetic (op : BinOp) (a b : Num) : StackOnly (arithmetic op a b) := by
  unfold arithmetic
  repeat' split
  all_goals simp

@[simp] theorem stackOnly_binary (frame : Nat) (op : BinOp) (l r : Value) :
    StackOnly (binary frame op l r) := by
  unfold binary
  repeat' split
  all_goals simp

@[simp] theorem stackOnly_item (strict : Bool) (target index : Value) :
    StackOnly (item strict target index) := by
  unfold item
  repeat' split
  all_goals simp

end Value

@[simp] theorem Options.stackOnly_fill (o : Options) (path : Option Text) (v : Value) :
    StackOnly (o.fill path v) := by
  unfold Options.fill
  split <;> simp

/-! ### Builtins -/

namespace Builtin

@[simp high] theorem stackOnly_expecting {α : Type} (frame : Nat) (fn : Builtin)
    (what : Expectation) (v : Value) :
    StackOnly (.error (expecting frame fn what v) : Except EvalError α) := by
  simp [expecting]

@[simp] theorem stackOnly_number (frame : Nat) (fn : Builtin) (v : Value) :
    StackOnly (number frame fn v) := by
  unfold number
  split <;> simp

@[simp] theorem stackOnly_text (frame : Nat) (fn : Builtin) (v : Value) :
    StackOnly (text frame fn v) := by
  unfold text
  split <;> simp

@[simp] theorem stackOnly_size (frame : Nat) (fn : Builtin) (v : Value) :
    StackOnly (size frame fn v) := by
  unfold size
  split <;> simp

@[simp] theorem stackOnly_shownTexts (frame : Nat) (vs : List Value) :
    StackOnly (shownTexts frame vs) :=
  Contained.mapM fun v _ => Value.stackOnly_shownText frame v

@[simp] theorem stackOnly_concatAll (frame : Nat) (vs : List Value) :
    StackOnly (concatAll frame vs) := by
  simp [concatAll]

@[simp] theorem stackOnly_substringOf (frame : Nat) (v start count : Value) :
    StackOnly (substringOf frame v start count) := by
  unfold substringOf
  -- step through the checks: each fails with a failure of the call, never an abort
  repeat' first
    | (intro)
    | constructor
    | split
    | simp only [Contained.bind, Contained.ite, Contained.error, stackOnly_text,
        stackOnly_number, StackOnly.mapError_arith, reduceCtorEq, false_implies, implies_true,
        true_and, and_true]
  all_goals simp

@[simp] theorem stackOnly_splitText (frame : Nat) (v sep : Value) :
    StackOnly (splitText frame v sep) := by
  simp [splitText]

@[simp] theorem stackOnly_joinTexts (frame : Nat) (v sep : Value) :
    StackOnly (joinTexts frame v sep) := by
  unfold joinTexts
  split <;> simp

@[simp] theorem stackOnly_containsItem (frame : Nat) (c item : Value) :
    StackOnly (containsItem frame c item) := by
  unfold containsItem
  split <;> simp

@[simp] theorem stackOnly_indexOfItem (frame : Nat) (c item : Value) :
    StackOnly (indexOfItem frame c item) := by
  unfold indexOfItem
  split <;> simp

@[simp] theorem stackOnly_toInt (frame : Nat) (v : Value) : StackOnly (toInt frame v) := by
  unfold toInt
  split
  · simp
  · repeat' split
    all_goals simp
  · simp only [Contained.bind, stackOnly_number, true_and]
    intro n _
    split <;> simp

@[simp] theorem stackOnly_toFloat (frame : Nat) (v : Value) : StackOnly (toFloat frame v) := by
  unfold toFloat
  repeat' split
  all_goals simp

@[simp] theorem stackOnly_readJson (frame : Nat) (v : Value) : StackOnly (readJson frame v) := by
  unfold readJson
  simp only [Contained.bind, stackOnly_text, true_and]
  intro s _
  split <;> simp [Abort.isStack]

@[simp] theorem stackOnly_numbers (frame : Nat) (fn : Builtin) (vs : List Value) :
    StackOnly (numbers frame fn vs) := by
  unfold numbers
  simp only [Contained.ite]
  exact ⟨fun _ => by simp, fun _ => Contained.mapM fun v _ => stackOnly_number frame fn v⟩

@[simp] theorem stackOnly_pickExtreme (frame : Nat) (fn : Builtin) (better : Ordering)
    (vs : List Value) : StackOnly (pickExtreme frame fn better vs) := by
  simp [pickExtreme]

@[simp] theorem stackOnly_sumList (frame : Nat) (v : Value) : StackOnly (sumList frame v) := by
  unfold sumList
  split
  · simp only [Contained.map]
    exact Contained.foldlM (fun acc x => by simp) _ _
  · simp

@[simp] theorem stackOnly_roundTo (frame : Nat) (v d : Value) : StackOnly (roundTo frame v d) := by
  simp [roundTo]

@[simp] theorem stackOnly_run (frame : Nat) (fn : Builtin) (args : List Value) :
    StackOnly (run frame fn args) := by
  unfold run
  split <;> simp

@[simp] theorem stackOnly_apply (frame : Nat) (fn : Builtin) (args : List Value) :
    StackOnly (apply frame fn args) := by
  unfold apply
  split <;> simp

end Builtin

/-! ### The evaluator -/

namespace Expr

variable (o : Options) (ctx : Value)

mutual

/-- **Evaluation ends the request only on the stack.** Every other failure of an
expression, of an operator, a builtin, a read or a host substitution, is a failure of the
evaluation. -/
theorem stackOnly_eval : ∀ (frame : Nat) (e : Expr), StackOnly (e.eval o ctx frame)
  | _, .lit _ | _, .var _ => by simp [eval]
  | frame, .member t _ => by simp [eval, stackOnly_eval (frame + 1) t]
  | frame, .index t k => by simp [eval, stackOnly_eval (frame + 1) t, stackOnly_eval (frame + 1) k]
  | frame, .call _ args => by simp [eval, stackOnly_evalList (frame + 2) args]
  | frame, .cond c a b => by
    simp [eval, stackOnly_eval (frame + 1) c, stackOnly_eval (frame + 1) a,
      stackOnly_eval (frame + 1) b]
  | frame, .array items => by simp [eval, stackOnly_evalList (frame + 2) items]
  | frame, .object fields => by simp [eval, stackOnly_evalFields (frame + 2) fields]
  | frame, .template parts => by simp [eval, stackOnly_evalParts (frame + 3) parts]
  | frame, .not e | frame, .negate e | frame, .plus e => by simp [eval, stackOnly_eval (frame + 1) e]
  | frame, .and l r | frame, .or l r | frame, .binary _ l r => by
    simp [eval, stackOnly_eval (frame + 1) l, stackOnly_eval (frame + 1) r]

theorem stackOnly_evalList : ∀ (frame : Nat) (es : List Expr), StackOnly (evalList o ctx frame es)
  | _, [] => by simp [evalList]
  | frame, e :: es => by simp [evalList, stackOnly_eval frame e, stackOnly_evalList frame es]

theorem stackOnly_evalFields :
    ∀ (frame : Nat) (fs : List (Text × Expr)), StackOnly (evalFields o ctx frame fs)
  | _, [] => by simp [evalFields]
  | frame, (_, e) :: fs => by simp [evalFields, stackOnly_eval frame e, stackOnly_evalFields frame fs]

theorem stackOnly_evalParts :
    ∀ (frame : Nat) (ps : List (Text ⊕ Expr)), StackOnly (evalParts o ctx frame ps)
  | _, [] => by simp [evalParts]
  | frame, .inl _ :: ps => by simp [evalParts, stackOnly_evalParts frame ps]
  | frame, .inr e :: ps => by simp [evalParts, stackOnly_eval frame e, stackOnly_evalParts frame ps]

end

end Expr

/-! ## Parsing ends the request only on the stack or a long literal -/

section Escaping

variable {α : Type}

/-- A parse that ends the request only as a failure that may escape: the stack ran out, or
an integer literal was too long. -/
abbrev Escaping (x : Except ParseError α) : Prop := Contained ParseError.abort Abort.Escapes x

@[simp] theorem Escaping.mapError_inTemplate {x : Except ParseError α} :
    Escaping (x.mapError ParseError.inTemplate) ↔ Escaping x := by
  cases x with
  | ok v => exact iff_of_true (Contained.ok v) (Contained.ok v)
  | error e =>
    show Escaping (.error e.inTemplate : Except ParseError α) ↔ _
    cases e <;> simp [ParseError.inTemplate, Abort.inTemplate]

end Escaping

theorem Reading.readInt_tooManyDigits {t : Text} {n : Nat}
    (h : Reading.readInt t = .error (.tooManyDigits n)) : digitLimit < n := by
  unfold Reading.readInt at h
  dsimp only at h
  repeat' split at h
  all_goals simp_all

namespace Expr

theorem escapes_of_leafFailure? {rule : Text} {table : List Reach} {frame : Nat} {a : Abort}
    (h : leafFailure? rule table frame = some a) : a.Escapes := by
  unfold leafFailure? at h
  split at h
  · cases h; simp
  · split at h <;> cases h <;> simp

@[simp] theorem escaping_leaf {rule : Text} {table : List Reach} {frame : Nat}
    {built : Except ParseError Expr} (h : Escaping built) :
    Escaping (leaf rule table frame built) := by
  unfold leaf
  split
  · rename_i a ha
    simpa using escapes_of_leafFailure? ha
  · exact h

@[simp] theorem escaping_number (t : Text) : Escaping (number t) := by
  unfold number
  split
  · simp
  · split
    · simp
    · rename_i d hd
      simp only [Contained.error, ParseError.abort.injEq, forall_eq', Abort.longLiteral,
        Abort.escapes_inRule]
      exact Or.inr ⟨d, rfl, Reading.readInt_tooManyDigits hd⟩
    · simp

theorem escaping_templateParts {source : Text} {sub : Text → Except ParseError Expr}
    (hsub : ∀ inner, Escaping (sub inner)) (t run : Text) :
    Escaping (templateParts source sub t run) := by
  fun_induction templateParts source sub t run with
  | case1 => simp
  | case2 => assumption
  | case3 => simp
  | case4 _ _ _ _ ih => simp [hsub, ih]
  | case5 => assumption

end Expr

namespace Expr

section Build

variable {source : Text} {sub : Nat → Text → Except ParseError Expr}

mutual

/-- Building an expression ends the request only at a leaf short of stack, at a long
integer literal, or where parsing a template's part does. -/
theorem escaping_build (hsub : ∀ d inner, Escaping (sub d inner)) :
    ∀ (frame : Nat) (s : Surface), Escaping (build source sub frame s)
  | frame, .number t => by
    simp only [build]
    split
    · exact escaping_leaf (by simp)
    · rename_i e he
      have hnum := escaping_number t
      rw [he] at hnum
      exact escaping_leaf (Contained.error.2 (Contained.error.1 hnum))
  | _, .string _ | _, .constant _ | _, .name _ | _, .array [] | _, .object [] => by simp [build]
  | frame, .template _ => by simp [build, escaping_templateParts (hsub (frame + 7))]
  | frame, .member t _ | frame, .not t | frame, .negate t | frame, .plus t => by
    simp [build, escaping_build hsub (frame + 2) t]
  | frame, .index l r | frame, .and l r | frame, .or l r | frame, .binary _ l r => by
    simp [build, escaping_build hsub (frame + 2) l, escaping_build hsub (frame + 2) r]
  | _, .call n [] => by
    simp only [build]
    split
    · simp
    · split <;> simp
  | frame, .call n (a :: as) => by
    simp only [build, Contained.bind, escaping_buildList hsub (frame + 4) (a :: as), true_and]
    intro args _
    split
    · split <;> simp
    · split <;> simp
  | frame, .array (a :: as) => by simp [build, escaping_buildList hsub (frame + 4) (a :: as)]
  | frame, .object (p :: ps) => by simp [build, escaping_buildPairs hsub (frame + 6) (p :: ps)]

theorem escaping_buildList (hsub : ∀ d inner, Escaping (sub d inner)) :
    ∀ (frame : Nat) (ss : List Surface), Escaping (buildList source sub frame ss)
  | _, [] => by simp [buildList]
  | frame, s :: ss => by
    simp [buildList, escaping_build hsub frame s, escaping_buildList hsub frame ss]

theorem escaping_buildPairs (hsub : ∀ d inner, Escaping (sub d inner)) :
    ∀ (frame : Nat) (ps : List (SurfaceKey × Surface)), Escaping (buildPairs source sub frame ps)
  | _, [] => by simp [buildPairs]
  | frame, (_, s) :: ps => by
    simp [buildPairs, escaping_build hsub frame s, escaping_buildPairs hsub frame ps]

end

end Build

/-- **Parsing ends the request only on the stack or a long literal.** A malformed text,
a wrong call, an unterminated template all are failures of the parse. -/
theorem escaping_parse (depth : Nat) (source : Text) : Escaping (Expr.parse depth source) := by
  rw [Expr.parse]
  split
  · simp
  · split
    · simp
    · split
      · simp
      · -- a template's part is parsed as a text of its own, shorter than this one
        refine escaping_build (fun d inner => ?_) _ _
        split
        · exact escaping_parse d inner
        · simp
termination_by source.length

end Expr

/-! ## Resolution and walks -/

/-- A formula ends the request only where its expression's evaluation does: a constant
never, and a host function's failure is the formula's. -/
theorem Formula.escapes_evaluate {f : Formula} {o : Options} {ctx : Value} {frame : Nat}
    {a : Abort} (h : f.evaluate o ctx frame = .error a) : a.Escapes := by
  unfold Formula.evaluate at h
  split at h
  · split at h
    · cases h
    · rename_i he
      cases h
      exact Abort.escapes_of_isStack ((Expr.stackOnly_eval o ctx _ _).abort he)
    · cases h
  · cases h
  · cases h

theorem Options.escapes_evaluateText {o : Options} {t : Text} {ctx : Value} {frame : Nat}
    {a : Abort} (h : o.evaluateText t ctx frame = .error a) : a.Escapes := by
  unfold Options.evaluateText at h
  split at h
  · exact Formula.escapes_evaluate h
  · rename_i hp
    cases h
    simp only [Formula.parse, map_eq_error] at hp
    exact (Expr.escaping_parse _ _).abort hp
  · cases h

namespace Document

variable {o : Options} {ctx : Value}

/-- A leaf ends the walk only where its text's resolution does, where its result nests
too deeply, or where walking its result does. -/
theorem escapes_leafValue {n : Nat}
    (ih : ∀ frame v a, walkLevels o ctx n frame v = .error a → a.Escapes) {L : Nat} {s : Text}
    {a : Abort} (h : leafValue o ctx n L s = .error a) : a.Escapes := by
  unfold leafValue at h
  rcases bind_eq_error.1 h with h | ⟨r, _, h⟩
  · exact Options.escapes_evaluateText h
  · split at h
    · cases h
    · cases h
    · split at h
      · cases h
        simp
      · split at h
        · cases h
        · cases h
        · exact ih _ _ _ h

theorem escapes_walkLevels : ∀ n frame v a, walkLevels o ctx n frame v = .error a → a.Escapes
  | 0, _, _, _, h => by simp [walkLevels] at h
  | n + 1, frame, v, a, h => by
    -- the failure is one leaf's, at this level or a level of results below it
    rw [walkLevels_succ] at h
    obtain ⟨L, s, -, hs⟩ := mapLeaves_error _ _ h
    exact escapes_leafValue (escapes_walkLevels n) hs

theorem walk_escapes {T : Value} {W : Nat} {a : Abort} (h : walk o ctx T W = .error a) :
    a.Escapes := by
  unfold walk walkResult at h
  split at h
  · cases h
  · exact escapes_walkLevels _ _ _ _ h

theorem walk_ok (T : Value) (W : Nat)
    (h : ∀ L s, LeafAt (W + 1) L s T → ∃ v, leafValue o ctx (maxLeafDepth - 1) L s = .ok v) :
    ∃ T', walk o ctx T W = .ok T' := by
  by_cases hT : ∀ t, T ≠ .str t
  · rw [walk_eq_mapLeaves o ctx hT]
    exact mapLeaves_ok _ _ h
  · obtain ⟨t, rfl⟩ : ∃ t, T = .str t := by simpa using hT
    exact ⟨_, rfl⟩

end Document

namespace Binding

theorem escapes_walked {b : Binding} {ctx : Value} {r : Outcome} {frame : Nat} {a : Abort}
    (h : b.walked ctx r frame = .error a) : a.Escapes := by
  unfold walked at h
  split at h
  · cases h
  · split at h
    · cases h
      simp
    · exact Document.walk_escapes (map_eq_error.1 h)
  · cases h

theorem resolve_escapes {b : Binding} {ctx : Value} {F : Nat} {a : Abort}
    (h : b.resolve ctx F = .error a) : a.Escapes := by
  unfold resolve at h
  split at h
  · cases h
  · exact escapes_walked h
  · exact Options.escapes_evaluateText h
  · rcases bind_eq_error.1 h with h | ⟨_, _, h⟩
    · exact Options.escapes_evaluateText h
    · exact escapes_walked h
  · rcases bind_eq_error.1 h with h | ⟨_, _, h⟩
    · exact Formula.escapes_evaluate h
    · exact escapes_walked h

end Binding

/-! ## Containment -/

/-- **Containment.** Resolving a binding and walking a tree end the request only when the
host runs out of stack or an integer literal is longer than the digit limit; every other
failure is contained in the outcome. In a walk, a leaf whose text reports a failure keeps
its text, and the walk succeeds whenever each of its leaves does. -/
theorem failures_contained (o : Options) (ctx : Value) :
    (∀ (b : Binding) (F : Nat) (a : Abort), b.resolve ctx F = .error a → a.Escapes) ∧
    (∀ (T : Value) (W : Nat) (a : Abort), Document.walk o ctx T W = .error a → a.Escapes) ∧
    (∀ (T : Value) (W : Nat),
      (∀ L s, Document.LeafAt (W + 1) L s T →
        ∃ v, Document.leafValue o ctx (Document.maxLeafDepth - 1) L s = .ok v) →
      ∃ T', Document.walk o ctx T W = .ok T') ∧
    (∀ (n L : Nat) (s m : Text),
      o.evaluateText (Document.classify s) ctx (L + Document.leafEvaluation) = .ok (.error m) →
      Document.leafValue o ctx n L s = .ok (.str s)) :=
  ⟨fun _ _ _ h => Binding.resolve_escapes h,
    fun _ _ _ h => Document.walk_escapes h,
    fun T W h => Document.walk_ok T W h,
    fun _ _ _ _ h => Document.leafValue_of_error h⟩

/-- A leaf with an integer literal of 4301 digits ends the walk of a list that holds it:
the failure is not contained. -/
theorem Document.walk_long_literal :
    Document.walk Options.standard .null (.list [.str (0x3D :: List.replicate 4301 0x31)]) 4 =
      .error (Abort.longLiteral 4301) :=
  eq_error_of_match (by decide +kernel)

end Templating
