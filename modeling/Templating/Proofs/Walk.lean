import Templating.Document.Walk
/-!
# Walks, leaf by leaf

A walk maps the text leaves of a tree, each in its own frame, and keeps everything else:
below the root, it is `mapLeaves` of the value one leaf gets (`leafValue`). This module
states what that map does to a whole tree from what it does to each leaf:

* maps that agree on a tree's leaves map it alike (`mapLeaves_congr`);
* a map fails only where one of its leaves fails, with that leaf's failure
  (`mapLeaves_error`);
* a map whose every leaf succeeds succeeds (`mapLeaves_ok`), so one leaf's outcome never
  stops its siblings;
* a leaf whose text reports a failure keeps its text (`leafValue_of_error`).

`LeafAt d L s v` says where the leaves are: `v`, in a frame at depth `d`, has the text
leaf `s` in a frame at depth `L`.

Outcomes (`Except`) have no decidable equality when they hold values, so closed facts
about them are computed on a projection and read back (`eq_ok_of_toOption`,
`eq_error_of_match`).

Main statements:

    walk o ctx T W = mapLeaves (leafValue o ctx (maxLeafDepth - 1)) (W + 1) T   (walk_eq_mapLeaves)
    mapLeaves f d v = error a → ∃ L s, LeafAt d L s v ∧ f L s = error a         (mapLeaves_error)
-/

namespace Templating

/-! ## Outcomes -/

section Outcomes

variable {ε α β : Type}

theorem eq_ok_of_toOption {x : Except ε α} {a : α} (h : x.toOption = some a) : x = .ok a := by
  cases x <;> simp_all [Except.toOption]

theorem eq_error_of_match {x : Except ε α} {err : ε}
    (h : (match x with | .error e => some e | .ok _ => none) = some err) : x = .error err := by
  cases x <;> simp_all

theorem eq_ok_of_match_int {x : Except ε Expr} {n : Int}
    (h : (match x with | .ok (.lit (.int m)) => some m | _ => none) = some n) :
    x = .ok (.lit (.int n)) := by
  split at h <;> simp_all

theorem bind_eq_error {x : Except ε α} {f : α → Except ε β} {e : ε} :
    x >>= f = .error e ↔ x = .error e ∨ ∃ v, x = .ok v ∧ f v = .error e := by
  cases x <;> simp [bind, Except.bind]

theorem map_eq_error {x : Except ε α} {f : α → β} {e : ε} :
    f <$> x = .error e ↔ x = .error e := by
  cases x <;> simp [Functor.map, Except.map]

theorem exists_bind_eq_ok {x : Except ε α} {f : α → Except ε β} :
    (∃ y, x >>= f = .ok y) ↔ ∃ v, x = .ok v ∧ ∃ y, f v = .ok y := by
  cases x <;> simp [bind, Except.bind]

theorem exists_map_eq_ok {x : Except ε α} {f : α → β} :
    (∃ y, f <$> x = .ok y) ↔ ∃ v, x = .ok v := by
  cases x <;> simp [Functor.map, Except.map]

theorem exists_seq_eq_ok {γ : Type} {x : Except ε α} {y : Except ε β} {f : α → β → γ} :
    (∃ z, (do let a ← x; let b ← y; pure (f a b)) = Except.ok z) ↔
      (∃ a, x = .ok a) ∧ ∃ b, y = .ok b := by
  cases x <;> cases y <;> simp [bind, Except.bind, pure, Except.pure]

theorem map_eq_ok {x : Except ε α} {f : α → β} {b : β} :
    f <$> x = .ok b ↔ ∃ a, x = .ok a ∧ f a = b := by
  cases x <;> simp [Functor.map, Except.map]

theorem seq_eq_ok {γ : Type} {x : Except ε α} {y : Except ε β} {f : α → β → γ} {c : γ} :
    (do let a ← x; let b ← y; pure (f a b)) = Except.ok c ↔
      ∃ a b, x = .ok a ∧ y = .ok b ∧ f a b = c := by
  cases x <;> cases y <;> simp [bind, Except.bind, pure, Except.pure]

theorem exists_map_mapError_eq_ok {ε' : Type} {x : Except ε α} {f : α → β}
    {g : ε → ε'} : (∃ y, (x.mapError g).map f = .ok y) ↔ ∃ v, x = .ok v := by
  cases x with
  | error e => exact iff_of_false (fun ⟨_, h⟩ => by cases h) (fun ⟨_, h⟩ => by cases h)
  | ok v => exact iff_of_true ⟨f v, rfl⟩ ⟨v, rfl⟩

end Outcomes

/-! ## Walks as leaf maps -/

namespace Document

/-- The value that a walk with `levels` more levels of results to resolve gives a text
leaf in a frame at depth `leaf`. -/
def leafValue (o : Options) (ctx : Value) (levels leaf : Nat) (s : Text) :
    Except Abort Value := do
  match ← o.evaluateText (classify s) ctx (leaf + leafEvaluation) with
  | .error _ => pure (.str s)
  | .ok .null => pure .null
  | .ok r =>
    if r.overflowsAt (leaf + leafResult) then .error (.stack Stack.comparing) else
    match r.toTree with
    | .null => pure .null
    | .str t => pure (.str t)
    | t => walkLevels o ctx levels (leaf + leafResult) t

theorem walkLevels_succ (o : Options) (ctx : Value) (n frame : Nat) (v : Value) :
    walkLevels o ctx (n + 1) frame v = mapLeaves (leafValue o ctx n) (frame + 1) v := rfl

/-- A walk resolves a tree that is not a text leaf by leaf, each leaf one frame below its
node. -/
theorem walk_eq_mapLeaves (o : Options) (ctx : Value) {T : Value} (hT : ∀ t, T ≠ .str t)
    (W : Nat) :
    walk o ctx T W = mapLeaves (leafValue o ctx (maxLeafDepth - 1)) (W + 1) T := by
  cases T <;> first | exact absurd rfl (hT _) | rfl

theorem leafValue_of_error {o : Options} {ctx : Value} {levels leaf : Nat} {s m : Text}
    (h : o.evaluateText (classify s) ctx (leaf + leafEvaluation) = .ok (.error m)) :
    leafValue o ctx levels leaf s = .ok (.str s) := by
  rw [leafValue, h]
  rfl

/-! ## Leaves of a tree -/

/-- `LeafAt d L s v`: the tree `v`, whose root is in a frame at depth `d`, has the text
leaf `s` in a frame at depth `L`. -/
inductive LeafAt : Nat → Nat → Text → Value → Prop
  | text (d : Nat) (s : Text) : LeafAt d d s (.str s)
  | item {d L : Nat} {s : Text} {x : Value} {xs : List Value} :
      x ∈ xs → LeafAt (d + 1) L s x → LeafAt d L s (.list xs)
  | entry {d L : Nat} {s k : Text} {x : Value} {es : List (Text × Value)} :
      (k, x) ∈ es → LeafAt (d + 1) L s x → LeafAt d L s (.object es)

section LeafMaps

variable {f g : Nat → Text → Except Abort Value}

mutual

theorem mapLeaves_congr :
    ∀ (d : Nat) (v : Value), (∀ L s, LeafAt d L s v → f L s = g L s) →
      mapLeaves f d v = mapLeaves g d v
  | d, .str s, h => by simp only [mapLeaves]; exact h d s (.text d s)
  | d, .list xs, h => by
    simp only [mapLeaves]
    rw [mapLeavesItems_congr (d + 1) xs (fun L s x hx hl => h L s (.item hx hl))]
  | d, .object es, h => by
    simp only [mapLeaves]
    rw [mapLeavesEntries_congr (d + 1) es (fun L s k x hx hl => h L s (.entry hx hl))]
  | _, .null, _ | _, .bool _, _ | _, .int _, _ | _, .float _, _ | _, .tuple _, _
  | _, .record _ _ _, _ | _, .method _ _ _, _ | _, .host _, _ => by simp only [mapLeaves]

theorem mapLeavesItems_congr :
    ∀ (d : Nat) (xs : List Value), (∀ L s x, x ∈ xs → LeafAt d L s x → f L s = g L s) →
      mapLeavesItems f d xs = mapLeavesItems g d xs
  | _, [], _ => rfl
  | d, x :: xs, h => by
    simp only [mapLeavesItems]
    rw [mapLeaves_congr d x (fun L s hl => h L s x (List.mem_cons_self ..) hl),
      mapLeavesItems_congr d xs (fun L s y hy hl => h L s y (List.mem_cons_of_mem _ hy) hl)]

theorem mapLeavesEntries_congr :
    ∀ (d : Nat) (es : List (Text × Value)),
      (∀ L s k x, (k, x) ∈ es → LeafAt d L s x → f L s = g L s) →
      mapLeavesEntries f d es = mapLeavesEntries g d es
  | _, [], _ => rfl
  | d, (k, x) :: es, h => by
    simp only [mapLeavesEntries]
    rw [mapLeaves_congr d x (fun L s hl => h L s k x (List.mem_cons_self ..) hl),
      mapLeavesEntries_congr d es
        (fun L s k' y hy hl => h L s k' y (List.mem_cons_of_mem _ hy) hl)]

end

mutual

/-- A leaf map fails only with the failure of one of the tree's leaves. -/
theorem mapLeaves_error {a : Abort} :
    ∀ (d : Nat) (v : Value), mapLeaves f d v = .error a → ∃ L s, LeafAt d L s v ∧ f L s = .error a
  | d, .str s, h => ⟨d, s, .text d s, h⟩
  | d, .list xs, h => by
    simp only [mapLeaves, map_eq_error] at h
    obtain ⟨L, s, x, hx, hl, he⟩ := mapLeavesItems_error (d + 1) xs h
    exact ⟨L, s, .item hx hl, he⟩
  | d, .object es, h => by
    simp only [mapLeaves, map_eq_error] at h
    obtain ⟨L, s, k, x, hx, hl, he⟩ := mapLeavesEntries_error (d + 1) es h
    exact ⟨L, s, .entry hx hl, he⟩
  | _, .null, h | _, .bool _, h | _, .int _, h | _, .float _, h | _, .tuple _, h
  | _, .record _ _ _, h | _, .method _ _ _, h | _, .host _, h => by simp [mapLeaves] at h

theorem mapLeavesItems_error {a : Abort} :
    ∀ (d : Nat) (xs : List Value), mapLeavesItems f d xs = .error a →
      ∃ L s x, x ∈ xs ∧ LeafAt d L s x ∧ f L s = .error a
  | _, [], h => by simp [mapLeavesItems] at h
  | d, x :: xs, h => by
    simp only [mapLeavesItems] at h
    rcases bind_eq_error.1 h with hx | ⟨y, _, h⟩
    · obtain ⟨L, s, hl, he⟩ := mapLeaves_error d x hx
      exact ⟨L, s, x, List.mem_cons_self .., hl, he⟩
    · rcases bind_eq_error.1 h with hxs | ⟨ys, _, h⟩
      · obtain ⟨L, s, y, hy, hl, he⟩ := mapLeavesItems_error d xs hxs
        exact ⟨L, s, y, List.mem_cons_of_mem _ hy, hl, he⟩
      · cases h

theorem mapLeavesEntries_error {a : Abort} :
    ∀ (d : Nat) (es : List (Text × Value)), mapLeavesEntries f d es = .error a →
      ∃ L s k x, (k, x) ∈ es ∧ LeafAt d L s x ∧ f L s = .error a
  | _, [], h => by simp [mapLeavesEntries] at h
  | d, (k, x) :: es, h => by
    simp only [mapLeavesEntries] at h
    rcases bind_eq_error.1 h with hx | ⟨y, _, h⟩
    · obtain ⟨L, s, hl, he⟩ := mapLeaves_error d x hx
      exact ⟨L, s, k, x, List.mem_cons_self .., hl, he⟩
    · rcases bind_eq_error.1 h with hes | ⟨ys, _, h⟩
      · obtain ⟨L, s, k', y, hy, hl, he⟩ := mapLeavesEntries_error d es hes
        exact ⟨L, s, k', y, List.mem_cons_of_mem _ hy, hl, he⟩
      · cases h

end

mutual

theorem mapLeaves_ok :
    ∀ (d : Nat) (v : Value), (∀ L s, LeafAt d L s v → ∃ w, f L s = .ok w) →
      ∃ v', mapLeaves f d v = .ok v'
  | d, .str s, h => h d s (.text d s)
  | d, .list xs, h => by
    obtain ⟨ys, hys⟩ := mapLeavesItems_ok (d + 1) xs (fun L s x hx hl => h L s (.item hx hl))
    exact ⟨.list ys, by simp only [mapLeaves, hys]; rfl⟩
  | d, .object es, h => by
    obtain ⟨es', hes⟩ :=
      mapLeavesEntries_ok (d + 1) es (fun L s k x hx hl => h L s (.entry hx hl))
    exact ⟨.object es', by simp only [mapLeaves, hes]; rfl⟩
  | _, .null, _ | _, .bool _, _ | _, .int _, _ | _, .float _, _ | _, .tuple _, _
  | _, .record _ _ _, _ | _, .method _ _ _, _ | _, .host _, _ => ⟨_, rfl⟩

theorem mapLeavesItems_ok :
    ∀ (d : Nat) (xs : List Value), (∀ L s x, x ∈ xs → LeafAt d L s x → ∃ w, f L s = .ok w) →
      ∃ ys, mapLeavesItems f d xs = .ok ys
  | _, [], _ => ⟨[], rfl⟩
  | d, x :: xs, h => by
    obtain ⟨y, hy⟩ := mapLeaves_ok d x (fun L s hl => h L s x (List.mem_cons_self ..) hl)
    obtain ⟨ys, hys⟩ :=
      mapLeavesItems_ok d xs (fun L s z hz hl => h L s z (List.mem_cons_of_mem _ hz) hl)
    exact ⟨y :: ys, by simp only [mapLeavesItems, hy, hys]; rfl⟩

theorem mapLeavesEntries_ok :
    ∀ (d : Nat) (es : List (Text × Value)),
      (∀ L s k x, (k, x) ∈ es → LeafAt d L s x → ∃ w, f L s = .ok w) →
      ∃ es', mapLeavesEntries f d es = .ok es'
  | _, [], _ => ⟨[], rfl⟩
  | d, (k, x) :: es, h => by
    obtain ⟨y, hy⟩ := mapLeaves_ok d x (fun L s hl => h L s k x (List.mem_cons_self ..) hl)
    obtain ⟨es', hes⟩ := mapLeavesEntries_ok d es
      (fun L s k' z hz hl => h L s k' z (List.mem_cons_of_mem _ hz) hl)
    exact ⟨(k, y) :: es', by simp only [mapLeavesEntries, hy, hes]; rfl⟩

end

end LeafMaps

end Document

end Templating
