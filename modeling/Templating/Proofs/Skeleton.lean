import Mathlib.Logic.Function.Iterate
import Templating.Proofs.Interpolation
/-!
# What a walk makes of a tree

A walk (`Document.walk`) is a total function: it recurses on the levels of leaf results it
may still resolve and, within a level, on the tree. This module says what it gives.

A walk keeps the skeleton of the tree and changes only its text leaves (`Reshaped`): every
list keeps its length, every object its keys in their order, every other value stays, and
each text leaf `s`, in a frame at depth `L`, becomes a value `w` with `P L s w` for a rule
`P` on leaves. A leaf map succeeds with `R` exactly when `R` reshapes the tree by what the
map makes of each leaf (`mapLeaves_eq_ok_iff`).

A walk at leaf depth `d` counts the leaf resolutions that produced the tree it walks: the
walk of a document starts at 0, and the result of a leaf resolved at depth `d` is walked at
`d + 1`, so `maxLeafDepth - d` levels are left. Its rule on leaves (`LeafResolves`): past
the bound a leaf keeps its text; below it, a leaf whose resolution reports an error keeps
its text, and any other leaf becomes its result, turned into a tree and walked at depth
`d + 1`, which keeps a text result as it is. A walk fails only where the resolution of one
of its leaves ends the request (`LeafAborts`).

Each level of leaf results is walked one leaf depth deeper, and past the bound nothing is
resolved (`walkResult_past_bound`), so results nest at most `maxLeafDepth - d` deep. Data
that refers to itself reaches the bound: `{v: "=loop"}` in the context
`{loop: {next: "=loop"}}` becomes `"=loop"` inside exactly `maxLeafDepth` objects
(`walk_loop`).

Main statements:

    (∀ L s w, f L s = ok w ↔ P L s w) →
      (mapLeaves f d T = ok R ↔ Reshaped P d T R)                      (mapLeaves_eq_ok_iff)
    walkResult o ctx (maxLeafDepth - d) W T = ok R ↔
      T is a text and R = T, or Reshaped (LeafResolves o ctx d) (W + 1) T R
                                                                      (walkResult_eq_ok_iff)
    walk o {loop: {next: "=loop"}} {v: "=loop"} W = ok {v: next^[32] "=loop"}   (walk_loop)
-/

namespace Templating

namespace Document

/-! ## Reshaped trees -/

mutual

/-- `Reshaped P d T R`: the tree `R` is `T`, whose root is in a frame at depth `d`, with
each text leaf `s` in a frame at depth `L` replaced by a value `w` with `P L s w`. Lists
keep their length and objects their keys in order, their items one frame deeper; every
other value stays as it is. -/
inductive Reshaped (P : Nat → Text → Value → Prop) : Nat → Value → Value → Prop
  | text {d : Nat} {s : Text} {w : Value} : P d s w → Reshaped P d (.str s) w
  | list {d : Nat} {xs ys : List Value} :
      ReshapedItems P (d + 1) xs ys → Reshaped P d (.list xs) (.list ys)
  | object {d : Nat} {es fs : List (Text × Value)} :
      ReshapedEntries P (d + 1) es fs → Reshaped P d (.object es) (.object fs)
  | keep {d : Nat} {v : Value} : (∀ s, v ≠ .str s) → (∀ xs, v ≠ .list xs) →
      (∀ es, v ≠ .object es) → Reshaped P d v v

/-- `Reshaped` item by item, each item in a frame at depth `d`. -/
inductive ReshapedItems (P : Nat → Text → Value → Prop) : Nat → List Value → List Value → Prop
  | nil {d : Nat} : ReshapedItems P d [] []
  | cons {d : Nat} {x y : Value} {xs ys : List Value} :
      Reshaped P d x y → ReshapedItems P d xs ys → ReshapedItems P d (x :: xs) (y :: ys)

/-- `Reshaped` on the values of entries, each in a frame at depth `d`, their keys kept. -/
inductive ReshapedEntries (P : Nat → Text → Value → Prop) :
    Nat → List (Text × Value) → List (Text × Value) → Prop
  | nil {d : Nat} : ReshapedEntries P d [] []
  | cons {d : Nat} {k : Text} {x y : Value} {es fs : List (Text × Value)} :
      Reshaped P d x y → ReshapedEntries P d es fs →
        ReshapedEntries P d ((k, x) :: es) ((k, y) :: fs)

end

section Reshaped

variable {P : Nat → Text → Value → Prop} {d : Nat}

theorem reshaped_str_iff {s : Text} {R : Value} : Reshaped P d (.str s) R ↔ P d s R := by
  constructor
  · intro h
    cases h with
    | text h => exact h
    | keep hs => exact absurd rfl (hs s)
  · exact .text

theorem reshaped_list_iff {xs : List Value} {R : Value} :
    Reshaped P d (.list xs) R ↔ ∃ ys, ReshapedItems P (d + 1) xs ys ∧ R = .list ys := by
  constructor
  · intro h
    cases h with
    | list h => exact ⟨_, h, rfl⟩
    | keep _ hl => exact absurd rfl (hl xs)
  · rintro ⟨ys, h, rfl⟩
    exact .list h

theorem reshaped_object_iff {es : List (Text × Value)} {R : Value} :
    Reshaped P d (.object es) R ↔ ∃ fs, ReshapedEntries P (d + 1) es fs ∧ R = .object fs := by
  constructor
  · intro h
    cases h with
    | object h => exact ⟨_, h, rfl⟩
    | keep _ _ ho => exact absurd rfl (ho es)
  · rintro ⟨fs, h, rfl⟩
    exact .object h

theorem reshaped_keep_iff {v R : Value} (hs : ∀ s, v ≠ .str s) (hl : ∀ xs, v ≠ .list xs)
    (ho : ∀ es, v ≠ .object es) : Reshaped P d v R ↔ R = v := by
  constructor
  · intro h
    cases h with
    | text => exact absurd rfl (hs _)
    | list => exact absurd rfl (hl _)
    | object => exact absurd rfl (ho _)
    | keep => rfl
  · rintro rfl
    exact .keep hs hl ho

theorem reshapedItems_nil_iff {ys : List Value} : ReshapedItems P d [] ys ↔ ys = [] := by
  constructor
  · intro h
    cases h
    rfl
  · rintro rfl
    exact .nil

theorem reshapedItems_cons_iff {x : Value} {xs ys : List Value} :
    ReshapedItems P d (x :: xs) ys ↔
      ∃ y ys', Reshaped P d x y ∧ ReshapedItems P d xs ys' ∧ y :: ys' = ys := by
  constructor
  · intro h
    cases h with
    | cons hx hxs => exact ⟨_, _, hx, hxs, rfl⟩
  · rintro ⟨y, ys', hx, hxs, rfl⟩
    exact .cons hx hxs

theorem reshapedEntries_nil_iff {fs : List (Text × Value)} :
    ReshapedEntries P d [] fs ↔ fs = [] := by
  constructor
  · intro h
    cases h
    rfl
  · rintro rfl
    exact .nil

theorem reshapedEntries_cons_iff {k : Text} {x : Value} {es fs : List (Text × Value)} :
    ReshapedEntries P d ((k, x) :: es) fs ↔
      ∃ y fs', Reshaped P d x y ∧ ReshapedEntries P d es fs' ∧ (k, y) :: fs' = fs := by
  constructor
  · intro h
    cases h with
    | cons hx hes => exact ⟨_, _, hx, hes, rfl⟩
  · rintro ⟨y, fs', hx, hes, rfl⟩
    exact .cons hx hes

end Reshaped

/-! ## Leaf maps reshape trees -/

section LeafMaps

variable {f : Nat → Text → Except Abort Value} {P : Nat → Text → Value → Prop}

theorem mapLeaves_eq_ok_iff_of_keep {d : Nat} {v R : Value} (hs : ∀ s, v ≠ .str s)
    (hl : ∀ xs, v ≠ .list xs) (ho : ∀ es, v ≠ .object es) :
    mapLeaves f d v = .ok R ↔ Reshaped P d v R := by
  rw [reshaped_keep_iff hs hl ho]
  have hkeep : mapLeaves f d v = .ok v := by
    cases v with
    | str s => exact absurd rfl (hs s)
    | list xs => exact absurd rfl (hl xs)
    | object es => exact absurd rfl (ho es)
    | null | bool _ | int _ | float _ | tuple _ | record _ _ _ | method _ _ _ | host _ => rfl
  rw [hkeep]
  exact ⟨fun h => (Except.ok.inj h).symm, fun h => h ▸ rfl⟩

mutual

/-- **A leaf map reshapes its tree.** Where the map gives each leaf exactly the values that
`P` allows, it gives a tree exactly the trees that reshape it by `P`. -/
theorem mapLeaves_eq_ok_iff (hf : ∀ L s w, f L s = .ok w ↔ P L s w) :
    ∀ (d : Nat) (T R : Value), mapLeaves f d T = .ok R ↔ Reshaped P d T R
  | d, .str s, R => by
    rw [reshaped_str_iff, ← hf]
    rfl
  | d, .list xs, R => by
    simp only [mapLeaves]
    rw [map_eq_ok, reshaped_list_iff]
    simp only [mapLeavesItems_eq_ok_iff hf (d + 1) xs]
    exact exists_congr fun ys => and_congr_right' eq_comm
  | d, .object es, R => by
    simp only [mapLeaves]
    rw [map_eq_ok, reshaped_object_iff]
    simp only [mapLeavesEntries_eq_ok_iff hf (d + 1) es]
    exact exists_congr fun fs => and_congr_right' eq_comm
  | _, .null, _ | _, .bool _, _ | _, .int _, _ | _, .float _, _ | _, .tuple _, _
  | _, .record _ _ _, _ | _, .method _ _ _, _ | _, .host _, _ =>
    mapLeaves_eq_ok_iff_of_keep (by simp) (by simp) (by simp)

theorem mapLeavesItems_eq_ok_iff (hf : ∀ L s w, f L s = .ok w ↔ P L s w) :
    ∀ (d : Nat) (xs ys : List Value), mapLeavesItems f d xs = .ok ys ↔ ReshapedItems P d xs ys
  | d, [], ys => by
    rw [reshapedItems_nil_iff]
    exact ⟨fun h => (Except.ok.inj h).symm, by rintro rfl; rfl⟩
  | d, x :: xs, ys => by
    simp only [mapLeavesItems]
    rw [seq_eq_ok, reshapedItems_cons_iff]
    simp only [mapLeaves_eq_ok_iff hf d x, mapLeavesItems_eq_ok_iff hf d xs]

theorem mapLeavesEntries_eq_ok_iff (hf : ∀ L s w, f L s = .ok w ↔ P L s w) :
    ∀ (d : Nat) (es fs : List (Text × Value)),
      mapLeavesEntries f d es = .ok fs ↔ ReshapedEntries P d es fs
  | d, [], fs => by
    rw [reshapedEntries_nil_iff]
    exact ⟨fun h => (Except.ok.inj h).symm, by rintro rfl; rfl⟩
  | d, (k, x) :: es, fs => by
    simp only [mapLeavesEntries]
    rw [seq_eq_ok, reshapedEntries_cons_iff]
    simp only [mapLeaves_eq_ok_iff hf d x, mapLeavesEntries_eq_ok_iff hf d es]

end

end LeafMaps

/-! ## The leaf rule of a walk -/

/-- How a walk at leaf depth `d` resolves the text leaf `s`, in a frame at depth `L`, into
`w`: past the bound the leaf keeps its text; below it, a leaf whose resolution reports an
error keeps its text, and any other leaf becomes its result, turned into a tree and walked
at depth `d + 1`, `leafResult` frames below the leaf. -/
def LeafResolves (o : Options) (ctx : Value) (d L : Nat) (s : Text) (w : Value) : Prop :=
  if maxLeafDepth ≤ d then w = .str s else
    ((∃ m, o.evaluateText (classify s) ctx (L + leafEvaluation) = .ok (.error m)) ∧
        w = .str s) ∨
      ∃ r, o.evaluateText (classify s) ctx (L + leafEvaluation) = .ok (.ok r) ∧
        r.overflowsAt (L + leafResult) = false ∧
        walkResult o ctx (maxLeafDepth - (d + 1)) (L + leafResult) r.toTree = .ok w

/-- How resolving the text leaf `s` of a walk at leaf depth `d`, in a frame at depth `L`,
ends the request with `a`: its evaluation ends it, or its result nests too deeply to become
a tree, or walking the result ends it. -/
def LeafAborts (o : Options) (ctx : Value) (d L : Nat) (s : Text) (a : Abort) : Prop :=
  o.evaluateText (classify s) ctx (L + leafEvaluation) = .error a ∨
    ∃ r, o.evaluateText (classify s) ctx (L + leafEvaluation) = .ok (.ok r) ∧
      (r.overflowsAt (L + leafResult) = true ∧ a = .stack Stack.comparing ∨
        r.overflowsAt (L + leafResult) = false ∧
          walkResult o ctx (maxLeafDepth - (d + 1)) (L + leafResult) r.toTree = .error a)

section Leaves

variable {o : Options} {ctx : Value} {n L : Nat} {s : Text}

theorem walkResult_str (n W : Nat) (t : Text) : walkResult o ctx n W (.str t) = .ok (.str t) :=
  rfl

theorem walkResult_of_ne_str {n W : Nat} {T : Value} (hT : ∀ t, T ≠ .str t) :
    walkResult o ctx n W T = walkLevels o ctx n W T := by
  cases T with
  | str t => exact absurd rfl (hT t)
  | _ => rfl

/-- A leaf whose text evaluates to a value becomes that value walked as a tree, unless it
nests too deeply to become one. -/
theorem leafValue_of_ok {r : Value}
    (h : o.evaluateText (classify s) ctx (L + leafEvaluation) = .ok (.ok r)) :
    leafValue o ctx n L s =
      if r.overflowsAt (L + leafResult) then .error (.stack Stack.comparing)
      else walkResult o ctx n (L + leafResult) r.toTree := by
  rw [leafValue, h]
  cases r with
  | null => cases n <;> rfl
  | _ =>
    dsimp only [bind, Except.bind]
    split
    · rfl
    · -- a text result is kept and any other tree walked, as a walk treats its root
      generalize Value.toTree _ = t
      cases t with
      | null => cases n <;> rfl
      | _ => rfl

theorem leafValue_of_abort {a : Abort}
    (h : o.evaluateText (classify s) ctx (L + leafEvaluation) = .error a) :
    leafValue o ctx n L s = .error a := by
  rw [leafValue, h]
  rfl

theorem leafValue_eq_ok_iff {w : Value} :
    leafValue o ctx n L s = .ok w ↔
      ((∃ m, o.evaluateText (classify s) ctx (L + leafEvaluation) = .ok (.error m)) ∧
          w = .str s) ∨
        ∃ r, o.evaluateText (classify s) ctx (L + leafEvaluation) = .ok (.ok r) ∧
          r.overflowsAt (L + leafResult) = false ∧
          walkResult o ctx n (L + leafResult) r.toTree = .ok w := by
  cases h : o.evaluateText (classify s) ctx (L + leafEvaluation) with
  | error a => simp [leafValue_of_abort h]
  | ok out =>
    cases out with
    | error m =>
      rw [leafValue_of_error h]
      simp only [Except.ok.injEq, Except.error.injEq, exists_eq', true_and, reduceCtorEq,
        false_and, exists_false, or_false]
      exact eq_comm
    | ok r =>
      rw [leafValue_of_ok h]
      cases hover : r.overflowsAt (L + leafResult) <;> simp [hover]

theorem leafValue_eq_error_iff {a : Abort} :
    leafValue o ctx n L s = .error a ↔
      o.evaluateText (classify s) ctx (L + leafEvaluation) = .error a ∨
        ∃ r, o.evaluateText (classify s) ctx (L + leafEvaluation) = .ok (.ok r) ∧
          (r.overflowsAt (L + leafResult) = true ∧ a = .stack Stack.comparing ∨
            r.overflowsAt (L + leafResult) = false ∧
              walkResult o ctx n (L + leafResult) r.toTree = .error a) := by
  cases h : o.evaluateText (classify s) ctx (L + leafEvaluation) with
  | error a' => simp [leafValue_of_abort h]
  | ok out =>
    cases out with
    | error m => simp [leafValue_of_error h]
    | ok r =>
      rw [leafValue_of_ok h]
      cases hover : r.overflowsAt (L + leafResult) with
      | false => simp [hover]
      | true =>
        simp only [hover, if_true, Except.error.injEq, Except.ok.injEq, exists_eq_left',
          true_and, Bool.true_eq_false, false_and, or_false, reduceCtorEq, false_or]
        exact eq_comm

end Leaves

/-! ## Walks -/

mutual

theorem mapLeaves_texts : ∀ (d : Nat) (T : Value), mapLeaves (fun _ s => .ok (.str s)) d T = .ok T
  | _, .str _ => rfl
  | d, .list xs => by simp only [mapLeaves, mapLeavesItems_texts (d + 1) xs]; rfl
  | d, .object es => by simp only [mapLeaves, mapLeavesEntries_texts (d + 1) es]; rfl
  | _, .null | _, .bool _ | _, .int _ | _, .float _ | _, .tuple _ | _, .record _ _ _
  | _, .method _ _ _ | _, .host _ => rfl

theorem mapLeavesItems_texts :
    ∀ (d : Nat) (xs : List Value), mapLeavesItems (fun _ s => .ok (.str s)) d xs = .ok xs
  | _, [] => rfl
  | d, x :: xs => by simp only [mapLeavesItems, mapLeaves_texts d x, mapLeavesItems_texts d xs]; rfl

theorem mapLeavesEntries_texts :
    ∀ (d : Nat) (es : List (Text × Value)),
      mapLeavesEntries (fun _ s => .ok (.str s)) d es = .ok es
  | _, [] => rfl
  | d, (k, x) :: es => by
    simp only [mapLeavesEntries, mapLeaves_texts d x, mapLeavesEntries_texts d es]; rfl

end

section Walks

variable {o : Options} {ctx : Value} {d W : Nat} {T : Value}

theorem walkResult_past_bound (hd : maxLeafDepth ≤ d) :
    walkResult o ctx (maxLeafDepth - d) W T = .ok T := by
  rw [show maxLeafDepth - d = 0 by omega]
  cases T <;> rfl

/-- Below the bound, a walk of a tree that is not a text maps its leaves by the leaf rule,
one frame below its root. -/
theorem walkResult_below_bound (hd : d < maxLeafDepth) (hT : ∀ t, T ≠ .str t) :
    walkResult o ctx (maxLeafDepth - d) W T =
      mapLeaves (leafValue o ctx (maxLeafDepth - (d + 1))) (W + 1) T := by
  rw [walkResult_of_ne_str hT, show maxLeafDepth - d = maxLeafDepth - (d + 1) + 1 by omega]
  rfl

/-- **What a walk gives.** A walk at leaf depth `d` gives back a text root as it is, and
reshapes any other tree by its leaf rule. -/
theorem walkResult_eq_ok_iff {R : Value} :
    walkResult o ctx (maxLeafDepth - d) W T = .ok R ↔
      ((∃ t, T = .str t) ∧ R = T) ∨
        ((∀ t, T ≠ .str t) ∧ Reshaped (LeafResolves o ctx d) (W + 1) T R) := by
  by_cases hT : ∃ t, T = .str t
  · obtain ⟨t, rfl⟩ := hT
    simp [walkResult_str, eq_comm]
  · have hT' : ∀ t, T ≠ .str t := fun t h => hT ⟨t, h⟩
    rw [or_iff_right (fun h => hT h.1), and_iff_right hT']
    by_cases hd : maxLeafDepth ≤ d
    · -- past the bound every leaf keeps its text, as the map that keeps texts does
      have hkeep : ∀ L s w, (Except.ok (.str s) : Except Abort Value) = .ok w ↔
          LeafResolves o ctx d L s w := fun L s w => by
        rw [LeafResolves, if_pos hd, Except.ok.injEq]
        exact eq_comm
      rw [walkResult_past_bound hd, ← mapLeaves_eq_ok_iff hkeep, mapLeaves_texts]
    · have hleaf : ∀ L s w, leafValue o ctx (maxLeafDepth - (d + 1)) L s = .ok w ↔
          LeafResolves o ctx d L s w := fun L s w => by
        rw [leafValue_eq_ok_iff, LeafResolves, if_neg hd]
      rw [walkResult_below_bound (by omega) hT']
      exact mapLeaves_eq_ok_iff hleaf _ _ _

/-- A walk fails only below the bound, where the resolution of one of its leaves ends the
request. -/
theorem walkResult_eq_error {a : Abort} (h : walkResult o ctx (maxLeafDepth - d) W T = .error a) :
    d < maxLeafDepth ∧ ∃ L s, LeafAt (W + 1) L s T ∧ LeafAborts o ctx d L s a := by
  have hT : ∀ t, T ≠ .str t := by
    rintro t rfl
    cases h
  have hd : d < maxLeafDepth := by
    by_contra hd
    rw [walkResult_past_bound (by omega)] at h
    cases h
  rw [walkResult_below_bound hd hT] at h
  obtain ⟨L, s, hleaf, herr⟩ := mapLeaves_error (W + 1) T h
  exact ⟨hd, L, s, hleaf, leafValue_eq_error_iff.1 herr⟩

end Walks

/-! ## Data that refers to itself -/

/-- A context whose `loop` is an object whose `next` is the expression `=loop`: each
resolution of `=loop` gives a tree holding `=loop` again. -/
def loopContext : Value :=
  .object [(Text.ofString "loop", .object [(Text.ofString "next", .str (Text.ofString "=loop"))])]

/-- `v` as the `next` of an object. -/
def nextLevel (v : Value) : Value := .object [(Text.ofString "next", v)]

section Loop

variable (o : Options)

theorem parse_loop {D : Nat} (h : D + 11 ≤ Stack.limit) :
    Expr.parse D (Text.ofString "loop") = .ok (.var (Text.ofString "loop")) := by
  rw [Expr.parse]
  have hblank : Text.isAllBlank (Text.ofString "loop") = false := by decide
  have hscan : Token.scan (Text.ofString "loop") = some [.name (Text.ofString "loop")] := by
    decide +kernel
  have hsurface : Surface.parse? [.name (Text.ofString "loop")] =
      some (.name (Text.ofString "loop")) := rfl
  rw [if_neg (by simp [hblank]), if_neg (by simp [Expr.scanFrames]; omega), hscan, Option.bind_some,
    hsurface]
  simp only [Expr.build, Expr.leaf]
  rw [Expr.leafFailure?_eq_none (by simp [Expr.tokenReach]; omega)]

theorem evaluateText_loop {F : Nat} (h : F + 14 ≤ Stack.limit) :
    o.evaluateText (classify (Text.ofString "=loop")) loopContext F =
      .ok (.ok (nextLevel (.str (Text.ofString "=loop")))) := by
  rw [show classify (Text.ofString "=loop") = marker :: Text.ofString "loop" from rfl,
    Interpolation.evaluateText_of_parse (parse_loop (by omega))]
  rfl

/-- A leaf `=loop` with `n` levels of results left to resolve becomes `=loop` inside
`n + 1` objects. -/
theorem leafValue_loop :
    ∀ n L, L + 5 * n + 18 ≤ Stack.limit →
      leafValue o loopContext n L (Text.ofString "=loop") =
        .ok (nextLevel^[n + 1] (.str (Text.ofString "=loop")))
  | 0, L, h => by
    rw [leafValue_of_ok (evaluateText_loop o (by simp only [leafEvaluation]; omega)),
      if_neg (by simp [Value.overflowsAt, Value.nativeFrames, Value.nativeFramesEntries,
        nextLevel, leafResult]; omega)]
    rfl
  | n + 1, L, h => by
    rw [leafValue_of_ok (evaluateText_loop o (by simp only [leafEvaluation]; omega)),
      if_neg (by simp [Value.overflowsAt, Value.nativeFrames, Value.nativeFramesEntries,
        nextLevel, leafResult]; omega)]
    -- the result's own `=loop` is resolved with one level fewer, five frames deeper
    have hnext := leafValue_loop n (L + leafResult + 1 + 1) (by simp only [leafResult]; omega)
    show mapLeaves (leafValue o loopContext n) (L + leafResult + 1)
      (nextLevel (.str (Text.ofString "=loop"))) = _
    simp only [nextLevel, mapLeaves, mapLeavesEntries, hnext]
    rw [Function.iterate_succ_apply' nextLevel (n + 1)]
    rfl

/-- **Data that refers to itself stops at the bound.** In the context
`{loop: {next: "=loop"}}`, the leaf `=loop` becomes `=loop` inside exactly `maxLeafDepth`
objects. -/
theorem walk_loop {W : Nat} (h : W + 175 ≤ Stack.limit) :
    walk o loopContext (.object [(Text.ofString "v", .str (Text.ofString "=loop"))]) W =
      .ok (.object [(Text.ofString "v", nextLevel^[maxLeafDepth] (.str (Text.ofString "=loop")))]) := by
  show mapLeaves (leafValue o loopContext 31) (W + 1) _ = _
  simp only [mapLeaves, mapLeavesEntries, leafValue_loop o 31 (W + 2) (by omega)]
  rfl

end Loop

/-- **A walk keeps the skeleton and resolves leaves to a bounded depth.** For every tree,
context, options, leaf depth `d` and frame `W`, the walk at depth `d` (a total function)
gives back a text root as it is and reshapes any other tree by its leaf rule: past the bound
a leaf keeps its text, below it a leaf whose resolution reports an error keeps its text and
any other leaf becomes its result, walked as a tree at depth `d + 1`. Otherwise it fails,
where the resolution of one of the tree's leaves ends the request. Past the bound it gives
back the tree, so leaf results nest at most `maxLeafDepth - d` deep, and data that refers
to itself nests exactly that deep. -/
theorem walk_shape :
    (∀ o ctx d W T R, walkResult o ctx (maxLeafDepth - d) W T = .ok R ↔
      ((∃ t, T = .str t) ∧ R = T) ∨
        ((∀ t, T ≠ .str t) ∧ Reshaped (LeafResolves o ctx d) (W + 1) T R)) ∧
    (∀ o ctx d W T a, walkResult o ctx (maxLeafDepth - d) W T = .error a →
      d < maxLeafDepth ∧ ∃ L s, LeafAt (W + 1) L s T ∧ LeafAborts o ctx d L s a) ∧
    (∀ o ctx d W T, maxLeafDepth ≤ d → walkResult o ctx (maxLeafDepth - d) W T = .ok T) ∧
    (∀ o W, W + 175 ≤ Stack.limit →
      walk o loopContext (.object [(Text.ofString "v", .str (Text.ofString "=loop"))]) W =
        .ok (.object [(Text.ofString "v",
          nextLevel^[maxLeafDepth] (.str (Text.ofString "=loop")))])) :=
  ⟨fun _ _ _ _ _ _ => walkResult_eq_ok_iff, fun _ _ _ _ _ _ h => walkResult_eq_error h,
    fun _ _ _ _ _ hd => walkResult_past_bound hd, fun o _ h => walk_loop o h⟩

theorem walk_shape_loop :
    4 + 175 ≤ Stack.limit ∧
    walk Options.standard loopContext
        (.object [(Text.ofString "v", .str (Text.ofString "=loop"))]) 4 =
      .ok (.object [(Text.ofString "v",
        nextLevel^[maxLeafDepth] (.str (Text.ofString "=loop")))]) :=
  ⟨by decide, walk_shape.2.2.2 Options.standard 4 (by decide)⟩

end Document

end Templating
