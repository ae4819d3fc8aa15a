import Templating.Proofs.JsonText
import Templating.Formula
/-!
# Constant formulas

A constant formula is named by the JSON text of its value (`Formula.constant`). Parsed as
expression text, that text is a formula again, and for plain data it evaluates to the value
itself, under any options, in any context: null, booleans, integers, doubles (a negative
zero included), texts, lists and objects all come back, of the same kind at every position
(`Formula.constant_round_trip`).

The tokens of the text are a sentence (`Value.Plain.derives_jsonTokens`) whose tree
(`Value.jsonSurface`) is the data's literal: keywords, number literals negated when
negative, string literals, and array and object literals. Building that tree goes at most
three frames deeper per frame the host takes to turn the data into plain data
(`Value.Plain.reach_jsonSurface_le`), and what it builds yields the data
(`Value.Plain.build_jsonSurface`). So the law holds with room on the stack for the data's
nesting. A text beyond the Basic Multilingual Plane does not come back: the surrogate pair
its JSON text holds is read as two code points (`Formula.constant_astral_text`).

Main statements:

    v.Plain → frame + 3 * v.nativeFrames + 15 ≤ limit →
      ∃ f, constant v = some f ∧ ∃ g, parse frame f.text = ok g ∧
        ∀ o ctx d, g.evaluate o ctx d = ok (ok v)                  (constant_round_trip)
-/

namespace Templating

/-! ## The tree of a constant -/

namespace Value

mutual

/-- The concrete tree of the JSON text of plain data: keywords for null and the booleans,
number literals (negated when negative), string literals of the escaped texts, and array
and object literals with string keys. -/
def jsonSurface : Value → Surface
  | .null => .constant .null
  | .bool b => .constant (.bool b)
  | .int n =>
    if n < 0 then .negate (.number (Text.decimal n.natAbs)) else .number (Text.decimal n.natAbs)
  | .float x =>
    if x.signBit then .negate (.number (x.abs.render FloatLayout.json))
    else .number (x.abs.render FloatLayout.json)
  | .str s => .string (s.flatMap Json.escapeCodePoint)
  | .list xs => .array (jsonSurfaceItems xs)
  | .object es => .object (jsonSurfaceEntries es)
  | _ => .constant .null

/-- The trees of the items of a list. -/
def jsonSurfaceItems : List Value → List Surface
  | [] => []
  | x :: xs => jsonSurface x :: jsonSurfaceItems xs

/-- The keyed trees of the entries of an object. -/
def jsonSurfaceEntries : List (Text × Value) → List (SurfaceKey × Surface)
  | [] => []
  | (k, v) :: es => (.string (k.flatMap Json.escapeCodePoint), jsonSurface v) :: jsonSurfaceEntries es

end

end Value

/-! ## Grammar -/

namespace Grammar

theorem derives_unary_of_atom {ts : List Token} {e : Surface} (h : Derives (.tier .atom) ts e) :
    Derives (.tier .unary) ts e :=
  .down (by decide) (.down (by decide) h)

theorem derives_signed (p : Prop) [Decidable p] {ts : List Token} {e : Surface}
    (h : Derives (.tier .unary) ts e) :
    Derives (.tier .unary) ((if p then [.sym .minus] else []) ++ ts) (if p then .negate e else e) := by
  by_cases hp : p
  · simp only [if_pos hp, List.singleton_append]
    exact .unaryOp rfl h
  · simpa [hp] using h

end Grammar

namespace Value

open Grammar

theorem derives_jsonItems {xs : List Value}
    (ih : ∀ x ∈ xs, Derives (.tier .unary) x.jsonTokens x.jsonSurface) (hne : xs ≠ []) :
    Derives .arguments (jsonTokensItems xs) (jsonSurfaceItems xs) := by
  induction xs with
  | nil => exact absurd rfl hne
  | cons x xs ihxs =>
    have hx := Sentence.of_unary (ih x (List.mem_cons_self ..))
    cases xs with
    | nil => exact .argument hx
    | cons y ys =>
      rw [jsonTokensItems.eq_3 _ _ (List.cons_ne_nil _ _), jsonSurfaceItems]
      exact .arguments hx (ihxs (fun z hz => ih z (List.mem_cons_of_mem _ hz)) (List.cons_ne_nil _ _))

theorem derives_jsonEntries {es : List (Text × Value)}
    (ih : ∀ e ∈ es, Derives (.tier .unary) e.2.jsonTokens e.2.jsonSurface) (hne : es ≠ []) :
    Derives .pairs (jsonTokensEntries es) (jsonSurfaceEntries es) := by
  induction es with
  | nil => exact absurd rfl hne
  | cons e es ihes =>
    obtain ⟨k, v⟩ := e
    have hv := Sentence.of_unary (ih (k, v) (List.mem_cons_self ..))
    cases es with
    | nil => exact .pair (k := .string _) hv
    | cons e' es' =>
      rw [jsonTokensEntries.eq_3 _ _ _ (List.cons_ne_nil _ _), jsonSurfaceEntries]
      exact .pairs (k := .string _) hv
        (ihes (fun z hz => ih z (List.mem_cons_of_mem _ hz)) (List.cons_ne_nil _ _))

/-- **The tokens of plain data are a sentence**, whose tree is the data's concrete tree:
a unary phrase, a literal possibly negated. -/
theorem Plain.derives_jsonTokens {v : Value} (hv : v.Plain) :
    Derives (.tier .unary) v.jsonTokens v.jsonSurface := by
  induction hv with
  | null => exact derives_unary_of_atom (.constant (by simp [keywords]))
  | bool b => cases b <;> exact derives_unary_of_atom (.constant (by simp [keywords]))
  | int _ => exact derives_signed _ (derives_unary_of_atom .number)
  | float _ => exact derives_signed _ (derives_unary_of_atom .number)
  | str _ => exact derives_unary_of_atom .string
  | @list xs _ ih =>
    cases xs with
    | nil => exact derives_unary_of_atom .arrayEmpty
    | cons x xs => exact derives_unary_of_atom (.array (derives_jsonItems ih (List.cons_ne_nil _ _)))
  | @object es _ _ _ ih =>
    cases es with
    | nil => exact derives_unary_of_atom .objectEmpty
    | cons e es =>
      exact derives_unary_of_atom (.object (derives_jsonEntries ih (List.cons_ne_nil _ _)))

end Value

/-! ## Depth -/

namespace Value

theorem reachList_jsonSurfaceItems {xs : List Value}
    (ih : ∀ x ∈ xs, x.jsonSurface.reach ≤ 3 * x.nativeFrames + 2) :
    Surface.reachList (jsonSurfaceItems xs) ≤ 3 * nativeFramesItems xs + 2 := by
  induction xs with
  | nil => simp [jsonSurfaceItems, Surface.reachList]
  | cons x xs ihxs =>
    have hx := ih x (List.mem_cons_self ..)
    have hxs := ihxs fun z hz => ih z (List.mem_cons_of_mem _ hz)
    simp only [jsonSurfaceItems, Surface.reachList, nativeFramesItems]
    omega

theorem reachPairs_jsonSurfaceEntries {es : List (Text × Value)}
    (ih : ∀ e ∈ es, e.2.jsonSurface.reach ≤ 3 * e.2.nativeFrames + 2) :
    Surface.reachPairs (jsonSurfaceEntries es) ≤ 3 * nativeFramesEntries es + 2 := by
  induction es with
  | nil => simp [jsonSurfaceEntries, Surface.reachPairs]
  | cons e es ihes =>
    obtain ⟨k, v⟩ := e
    have hv : v.jsonSurface.reach ≤ 3 * v.nativeFrames + 2 := ih (k, v) (List.mem_cons_self ..)
    have hes := ihes fun z hz => ih z (List.mem_cons_of_mem _ hz)
    simp only [jsonSurfaceEntries, Surface.reachPairs, nativeFramesEntries]
    omega

/-- Building the tree of plain data goes at most three frames deeper per frame that turning
the data into plain data takes on the host, and two more for a negation at a leaf. -/
theorem Plain.reach_jsonSurface_le {v : Value} (hv : v.Plain) :
    v.jsonSurface.reach ≤ 3 * v.nativeFrames + 2 := by
  induction hv with
  | null | bool _ | str _ => simp [jsonSurface, Surface.reach]
  | @int n _ => by_cases h : n < 0 <;> simp [jsonSurface, Surface.reach, h]
  | @float x _ => cases h : x.signBit <;> simp [jsonSurface, Surface.reach, h]
  | list _ ih =>
    have := reachList_jsonSurfaceItems ih
    simp only [jsonSurface, Surface.reach, nativeFrames]
    omega
  | object _ _ _ ih =>
    have := reachPairs_jsonSurfaceEntries ih
    simp only [jsonSurface, Surface.reach, nativeFrames]
    omega

end Value

/-! ## Building and evaluating -/

namespace Entries

theorem set_of_not_mem {es : Entries} {k : Text} (h : k ∉ es.map Prod.fst) (v : Value) :
    set es k v = es ++ [(k, v)] := by
  induction es with
  | nil => rfl
  | cons e rest ih =>
    obtain ⟨k', v'⟩ := e
    simp only [List.map_cons, List.mem_cons, not_or] at h
    rw [set, if_neg (Ne.symm h.1), ih h.2]
    rfl

theorem ofPairs_of_nodup {ps : List (Text × Value)} (h : (ps.map Prod.fst).Nodup) :
    ofPairs ps = ps := by
  -- each pair's key is new to the entries made so far, so it is appended
  have key : ∀ (ps acc : List (Text × Value)), (acc.map Prod.fst ++ ps.map Prod.fst).Nodup →
      ps.foldl (fun es p => set es p.1 p.2) acc = acc ++ ps := by
    intro ps
    induction ps with
    | nil => simp
    | cons p ps ih =>
      intro acc hnd
      have hnew : p.1 ∉ acc.map Prod.fst := by
        intro hp
        exact (List.nodup_append.1 hnd).2.2 _ hp _ (List.mem_map_of_mem (List.mem_cons_self ..)) rfl
      rw [List.foldl_cons, set_of_not_mem hnew, ih]
      · simp
      · simpa using hnd
  unfold ofPairs
  simpa using key ps [] (by simpa using h)

end Entries

namespace Expr

/-- An expression that evaluates to `v` under any options, in any context and frame. -/
def Yields (e : Expr) (v : Value) : Prop := ∀ o ctx frame, e.eval o ctx frame = .ok v

theorem Yields.lit (v : Value) : (Expr.lit v).Yields v := fun _ _ _ => rfl

theorem Yields.negate {e : Expr} {v w : Value} (h : e.Yields v)
    (hw : ∀ frame, Value.signed frame (-1) v = .ok w) : (Expr.negate e).Yields w := by
  intro o ctx frame
  show (e.eval o ctx (frame + 1) >>= fun v => Value.signed frame (-1) v) = _
  rw [h]
  exact hw frame

theorem signed_int (frame : Nat) (m : Int) : Value.signed frame (-1) (.int m) = .ok (.int (-1 * m)) :=
  rfl

theorem signed_float (frame : Nat) {x : Binary64} (hx : x.exponentField < 2047) :
    Value.signed frame (-1) (.float x) =
      .ok (.float (Binary64.ofFields (!x.signBit) x.exponentField x.fractionField)) := by
  unfold Value.signed
  simp only [Value.num?]
  rw [Num.mul_neg_one hx]
  rfl

theorem number_decimal {m : Nat} (h : m < Nat.pow 10 digitLimit) :
    number (Text.decimal m) = .ok (.int m) := by
  have hascii : ∀ c ∈ Text.decimal m, 0x30 ≤ c ∧ c ≤ 0x39 := by
    intro c hc
    simpa [Text.isAsciiDigit] using Text.isAsciiDigit_of_mem_decimal hc
  have hany : (Text.decimal m).any (fun c => c = 0x2E || c = 0x65 || c = 0x45) = false := by
    rw [List.any_eq_false]
    intro c hc
    have := hascii c hc
    simp only [Bool.or_eq_true, decide_eq_true_eq]
    omega
  have hlen : ¬ digitLimit < (Text.decimal m).length := by
    rw [Nat.not_lt, Text.length_decimal_le_iff (by decide)]
    exact h
  have hview : (Text.decimal m).map Reading.asciiView = Text.decimal m := by
    rw [List.map_congr_left fun c hc => Reading.asciiView_of_lt (by have := hascii c hc; omega),
      List.map_id']
  unfold number
  rw [if_neg (by simp [hany]), Reading.readInt_digits (Text.decimal_ne_nil m)
    (fun c hc => Token.isDigit_of_isAsciiDigit (Text.isAsciiDigit_of_mem_decimal hc)),
    if_neg hlen, hview, Reading.digitsValue_decimal]

section Build

variable {source : Text} {sub : Nat → Text → Except ParseError Expr}

theorem build_number_of_ok {t : Text} {v : Value} {frame : Nat} (h : number t = .ok v)
    (hroom : frame + 9 ≤ Stack.limit) : build source sub frame (.number t) = .ok (.lit v) := by
  simp only [build, h]
  exact leaf_of_room (by decide) hroom

theorem build_negate_number {t : Text} {v : Value} {frame : Nat} (h : number t = .ok v)
    (hroom : frame + 2 + 9 ≤ Stack.limit) :
    build source sub frame (.negate (.number t)) = .ok (.negate (.lit v)) := by
  rw [build.eq_15, build_number_of_ok h hroom]
  rfl

theorem build_constant_of_room {v : Value} {frame : Nat} (hroom : frame + 9 ≤ Stack.limit) :
    build source sub frame (.constant v) = .ok (.lit v) := by
  simp only [build]
  exact leaf_of_room (by decide) hroom

end Build

end Expr

namespace Value

open Templating.Expr

section Build

variable (source : Text) (sub : Nat → Text → Except ParseError Expr)

theorem buildList_jsonSurfaceItems {xs : List Value}
    (ih : ∀ x ∈ xs, ∀ frame, frame + x.jsonSurface.reach + 9 ≤ Stack.limit →
      ∃ e, build source sub frame x.jsonSurface = .ok e ∧ e.Yields x)
    (frame : Nat) (hroom : frame + Surface.reachList (jsonSurfaceItems xs) + 9 ≤ Stack.limit) :
    ∃ es, buildList source sub frame (jsonSurfaceItems xs) = .ok es ∧
      ∀ o ctx d, evalList o ctx d es = .ok xs := by
  induction xs with
  | nil => exact ⟨[], rfl, fun _ _ _ => rfl⟩
  | cons x xs ihxs =>
    simp only [jsonSurfaceItems, Surface.reachList] at hroom ⊢
    obtain ⟨e, he, hy⟩ := ih x (List.mem_cons_self ..) frame (by omega)
    obtain ⟨es, hes, hys⟩ := ihxs (fun z hz => ih z (List.mem_cons_of_mem _ hz)) (by omega)
    refine ⟨e :: es, by rw [buildList, he, hes]; rfl, fun o ctx d => ?_⟩
    rw [evalList, hy o ctx d, hys o ctx d]
    rfl

theorem buildPairs_jsonSurfaceEntries {es : List (Text × Value)} (hkeys : ∀ e ∈ es, e.1.InBmp)
    (ih : ∀ e ∈ es, ∀ frame, frame + e.2.jsonSurface.reach + 9 ≤ Stack.limit →
      ∃ x, build source sub frame e.2.jsonSurface = .ok x ∧ x.Yields e.2)
    (frame : Nat) (hroom : frame + Surface.reachPairs (jsonSurfaceEntries es) + 9 ≤ Stack.limit) :
    ∃ ps, buildPairs source sub frame (jsonSurfaceEntries es) = .ok ps ∧
      ∀ o ctx d, evalFields o ctx d ps = .ok es := by
  induction es with
  | nil => exact ⟨[], rfl, fun _ _ _ => rfl⟩
  | cons e es ihes =>
    obtain ⟨k, v⟩ := e
    simp only [jsonSurfaceEntries, Surface.reachPairs] at hroom ⊢
    obtain ⟨x, hx, hy⟩ : ∃ x, build source sub frame v.jsonSurface = .ok x ∧ x.Yields v :=
      ih (k, v) (List.mem_cons_self ..) frame (by dsimp only; omega)
    obtain ⟨ps, hps, hys⟩ := ihes (fun z hz => hkeys z (List.mem_cons_of_mem _ hz))
      (fun z hz => ih z (List.mem_cons_of_mem _ hz)) (by omega)
    have hkey : keyText (.string (k.flatMap Json.escapeCodePoint)) = k :=
      unescape_flatMap (hkeys (k, v) (List.mem_cons_self ..))
    refine ⟨(k, x) :: ps, by rw [buildPairs, hx, hps, hkey]; rfl, fun o ctx d => ?_⟩
    rw [evalFields, hy o ctx d, hys o ctx d]
    rfl

/-- **Plain data builds to an expression that yields it.** With room on the stack for its
tree, the tree of plain data builds, and what it builds evaluates to the data under any
options, in any context and frame: integers and doubles keep their kind and sign (a
negative zero included), texts and keys read back from their escapes, and an object keeps
its entries in order. -/
theorem Plain.build_jsonSurface {v : Value} (hv : v.Plain) :
    ∀ frame, frame + v.jsonSurface.reach + 9 ≤ Stack.limit →
      ∃ e, build source sub frame v.jsonSurface = .ok e ∧ e.Yields v := by
  induction hv with
  | null | bool _ =>
    intro frame hroom
    exact ⟨_, build_constant_of_room (by simpa [jsonSurface, Surface.reach] using hroom),
      Yields.lit _⟩
  | @int n hn =>
    intro frame hroom
    have hlit := number_decimal hn
    by_cases hneg : n < 0
    · have hs : (Value.int n).jsonSurface = .negate (.number (Text.decimal n.natAbs)) := if_pos hneg
      rw [hs] at hroom ⊢
      refine ⟨_, build_negate_number hlit (by simpa [Surface.reach] using hroom),
        (Yields.lit _).negate fun d => ?_⟩
      rw [signed_int]
      congr 3
      omega
    · have hs : (Value.int n).jsonSurface = .number (Text.decimal n.natAbs) := if_neg hneg
      rw [hs] at hroom ⊢
      rw [Int.natAbs_of_nonneg (by omega)] at hlit
      exact ⟨_, build_number_of_ok hlit (by simpa [Surface.reach] using hroom), Yields.lit _⟩
  | @float x hx =>
    intro frame hroom
    obtain ⟨hs, he, hf⟩ := Binary64.fields_abs x
    have hlit := number_render FloatLayout.json (he ▸ hx) hs
    cases hsign : x.signBit with
    | true =>
      have hsurf : (Value.float x).jsonSurface =
          .negate (.number (x.abs.render FloatLayout.json)) := by
        simp [jsonSurface, hsign]
      have hneg : Binary64.ofFields true x.exponentField x.fractionField = x := by
        rw [← hsign]
        exact Binary64.ofFields_fields x
      rw [hsurf] at hroom ⊢
      refine ⟨_, build_negate_number hlit (by simpa [Surface.reach] using hroom),
        (Yields.lit _).negate fun d => ?_⟩
      rw [signed_float d (he ▸ hx), hs, he, hf, Bool.not_false, hneg]
    | false =>
      have hsurf : (Value.float x).jsonSurface = .number (x.abs.render FloatLayout.json) := by
        simp [jsonSurface, hsign]
      have habs : x.abs = x := by
        rw [Binary64.abs_eq_ofFields, ← hsign]
        exact Binary64.ofFields_fields x
      rw [hsurf] at hroom ⊢
      refine ⟨_, build_number_of_ok hlit (by simpa [Surface.reach] using hroom), ?_⟩
      rw [habs]
      exact Yields.lit _
  | @str s hs =>
    intro frame hroom
    refine ⟨.lit (.str s), ?_, Yields.lit _⟩
    simp only [jsonSurface, build]
    rw [leaf_of_room (length_stringReach_le _) (by simpa [jsonSurface, Surface.reach] using hroom),
      unescape_flatMap hs]
  | @list xs _ ih =>
    intro frame hroom
    cases xs with
    | nil =>
      refine ⟨.array [], ?_, fun _ _ _ => rfl⟩
      simp only [jsonSurface, jsonSurfaceItems, build]
      simp only [jsonSurface, jsonSurfaceItems, Surface.reach, Surface.reachList] at hroom
      exact leaf_of_room (by decide) (by omega)
    | cons x xs =>
      have hroom' : frame + 4 + Surface.reachList (jsonSurfaceItems (x :: xs)) + 9 ≤ Stack.limit := by
        simp only [jsonSurface, Surface.reach] at hroom
        omega
      obtain ⟨es, hes, hy⟩ := buildList_jsonSurfaceItems source sub ih (frame + 4) hroom'
      refine ⟨.array es, ?_, fun o ctx d => ?_⟩
      · simp only [jsonSurfaceItems] at hes
        simp only [jsonSurface, jsonSurfaceItems, build, hes]
        rfl
      · show Value.list <$> evalList o ctx (d + 2) es = _
        rw [hy]
        rfl
  | @object es hnd hkeys _ ih =>
    intro frame hroom
    cases es with
    | nil =>
      refine ⟨.object [], ?_, fun _ _ _ => rfl⟩
      simp only [jsonSurface, jsonSurfaceEntries, build]
      simp only [jsonSurface, jsonSurfaceEntries, Surface.reach, Surface.reachPairs] at hroom
      exact leaf_of_room (by decide) (by omega)
    | cons e es =>
      have hroom' : frame + 6 + Surface.reachPairs (jsonSurfaceEntries (e :: es)) + 9 ≤
          Stack.limit := by
        simp only [jsonSurface, Surface.reach] at hroom
        omega
      obtain ⟨ps, hps, hy⟩ := buildPairs_jsonSurfaceEntries source sub hkeys ih (frame + 6) hroom'
      refine ⟨.object ps, ?_, fun o ctx d => ?_⟩
      · obtain ⟨k, v⟩ := e
        simp only [jsonSurfaceEntries] at hps
        simp only [jsonSurface, jsonSurfaceEntries, build, hps]
        rfl
      · show (fun ps => Value.object (Entries.ofPairs ps)) <$> evalFields o ctx (d + 2) ps = _
        rw [hy]
        exact congrArg (fun ps => (Except.ok (Value.object ps) : Except EvalError Value))
          (Entries.ofPairs_of_nodup hnd)

end Build

end Value

/-! ## Constant formulas -/

namespace Value

theorem toTreeItems_of_plain {xs : List Value} (h : ∀ x ∈ xs, x.toTree = x) :
    toTreeItems xs = xs := by
  induction xs with
  | nil => rfl
  | cons x xs ih =>
    rw [toTreeItems, h x (List.mem_cons_self ..), ih fun z hz => h z (List.mem_cons_of_mem _ hz)]

theorem toTreeEntries_of_plain {es : List (Text × Value)} (h : ∀ e ∈ es, e.2.toTree = e.2) :
    toTreeEntries es = es := by
  induction es with
  | nil => rfl
  | cons e es ih =>
    obtain ⟨k, v⟩ := e
    have hv : v.toTree = v := h (k, v) (List.mem_cons_self ..)
    rw [toTreeEntries, hv, ih fun z hz => h z (List.mem_cons_of_mem _ hz)]

theorem Plain.toTree_eq {v : Value} (hv : v.Plain) : v.toTree = v := by
  induction hv with
  | null | bool _ | int _ | float _ | str _ => rfl
  | list _ ih => rw [toTree, toTreeItems_of_plain ih]
  | object _ _ _ ih => rw [toTree, toTreeEntries_of_plain ih]

theorem isAllBlank_cons {c : Nat} (hc : Text.isBlank c = false) (r : Text) :
    Text.isAllBlank (c :: r) = false := by
  simp [Text.isAllBlank, hc]

theorem isBlank_of_isAsciiDigit {c : Nat} (h : Text.isAsciiDigit c = true) :
    Text.isBlank c = false := by
  have key : ∀ c < 0x3A, Text.isAsciiDigit c = true → Text.isBlank c = false := by decide
  exact key c (by simp [Text.isAsciiDigit] at h; omega) h

theorem isAllBlank_numeral (n : Reading.Numeral) (r : Text) :
    Text.isAllBlank (n.text ++ r) = false := by
  obtain ⟨c, w, hw⟩ := List.exists_cons_of_ne_nil n.whole_ne
  have hc := isBlank_of_isAsciiDigit (n.whole_digits c (by rw [hw]; exact List.mem_cons_self ..))
  simp only [Reading.Numeral.text, hw, List.cons_append]
  exact isAllBlank_cons hc _

theorem isAllBlank_signed (p : Prop) [Decidable p] (n : Reading.Numeral) :
    Text.isAllBlank ((if p then [0x2D] else []) ++ n.text) = false := by
  by_cases hp : p
  · simp only [if_pos hp, List.singleton_append]
    exact isAllBlank_cons (by decide) _
  · simpa [hp] using isAllBlank_numeral n []

/-- The JSON text of plain data is not blank: it starts with a keyword, a number, a quote
or a bracket. -/
theorem Plain.isAllBlank_write {v : Value} (hv : v.Plain) {t : Text}
    (ht : Json.write Json.Layout.spaced v = some t) : Text.isAllBlank t = false := by
  cases hv with
  | null => cases ht; decide
  | bool b => cases b <;> cases ht <;> decide
  | @int n hn =>
    rw [Json.write, Int.toText?, if_pos hn, Option.some.injEq] at ht
    rw [← ht]
    simpa [Token.decimalNumeral, Reading.Numeral.text, Reading.Numeral.fracText,
      Reading.Numeral.expText] using isAllBlank_signed (n < 0) (Token.decimalNumeral n.natAbs)
  | @float x hx =>
    cases ht
    obtain ⟨hs, he, -⟩ := Binary64.fields_abs x
    obtain ⟨n, htext, -, -⟩ := Binary64.render_finite FloatLayout.json (he ▸ hx)
    rw [hs, if_neg Bool.false_ne_true, List.nil_append] at htext
    rw [Binary64.render_eq_sign_append _ hx, htext]
    exact isAllBlank_signed _ n
  | str _ => cases ht; exact isAllBlank_cons (by decide) _
  | list _ =>
    obtain ⟨u, -, rfl⟩ := Option.map_eq_some_iff.1 ht
    exact isAllBlank_cons (by decide) _
  | object _ _ _ =>
    obtain ⟨u, -, rfl⟩ := Option.map_eq_some_iff.1 ht
    exact isAllBlank_cons (by decide) _

end Value

namespace Formula

/-- Text that is not blank, whose tokens are a sentence whose tree builds, parses as the
formula of the built expression; the tree is built four frames below the formula's own. -/
theorem parse_eq_ok_of_build {frame : Nat} {t : Text} {ts : List Token} {s : Surface}
    {e : Expr} (hb : Text.isAllBlank t = false) (hroom : frame + 10 ≤ Stack.limit)
    (hts : Token.scan t = some ts) (hs : Grammar.Sentence ts s)
    (he : Expr.build t (Expr.parseShorter t) (frame + 4) s = .ok e) :
    Formula.parse frame t = .ok ⟨t, .expr e⟩ := by
  rw [Formula.parse, Expr.parse_eq_build hb (by simp only [Expr.scanFrames]; omega) hts hs,
    show frame + 1 + 3 = frame + 4 by omega, he]
  rfl

theorem evaluate_of_yields {t : Text} {e : Expr} {v : Value} (h : e.Yields v)
    (o : Options) (ctx : Value) (frame : Nat) :
    (⟨t, .expr e⟩ : Formula).evaluate o ctx frame = .ok (.ok v) := by
  simp only [evaluate, h o ctx (frame + 2)]

/-- **Constants round-trip through their text.** The JSON text of plain data, parsed as
expression text from a frame with room on the stack for the data's nesting, is a formula
that evaluates to the data under any options, in any context and frame: null, booleans,
integers, doubles (a negative zero included), texts of the Basic Multilingual Plane, lists,
and objects with distinct keys, all of the same kind at every position. -/
theorem constant_round_trip {v : Value} (hv : v.Plain) {frame : Nat}
    (hroom : frame + 3 * v.nativeFrames + 15 ≤ Stack.limit) :
    ∃ f, Formula.constant v = some f ∧ ∃ g, Formula.parse frame f.text = .ok g ∧
      ∀ o ctx d, g.evaluate o ctx d = .ok (.ok v) := by
  obtain ⟨t, hwrite, hscan⟩ := hv.scansAs_write
  have hts : Token.scan t = some v.jsonTokens := by
    simpa [Token.scan_nil] using hscan [] fun _ _ h => nomatch h
  have hreach := hv.reach_jsonSurface_le
  obtain ⟨e, hbuild, hyields⟩ :=
    hv.build_jsonSurface t (Expr.parseShorter t) (frame + 4) (by omega)
  refine ⟨⟨t, .constant v⟩, ?_, ⟨t, .expr e⟩, ?_, evaluate_of_yields hyields⟩
  · rw [Formula.constant, hv.toTree_eq, hwrite]
    rfl
  · exact parse_eq_ok_of_build (hv.isAllBlank_write hwrite) (by omega) hts
      (Grammar.Sentence.of_unary hv.derives_jsonTokens) hbuild

theorem constant_round_trip_sample :
    (Value.list [.int (-7), .float ⟨0x8000000000000000⟩,
      .object [(Text.ofString "k", .str [0xE9])]]).Plain ∧
    0 + 3 * (Value.list [.int (-7), .float ⟨0x8000000000000000⟩,
      .object [(Text.ofString "k", .str [0xE9])]]).nativeFrames + 15 ≤ Stack.limit ∧
    ∃ f, Formula.constant (.list [.int (-7), .float ⟨0x8000000000000000⟩,
      .object [(Text.ofString "k", .str [0xE9])]]) = some f ∧
      ∃ g, Formula.parse 0 f.text = .ok g ∧ ∀ o ctx d, g.evaluate o ctx d =
        .ok (.ok (.list [.int (-7), .float ⟨0x8000000000000000⟩,
          .object [(Text.ofString "k", .str [0xE9])]])) := by
  have hobj : (Value.object [(Text.ofString "k", .str [0xE9])]).Plain :=
    .object (by decide) (by decide) fun e he => by
      simp only [List.mem_singleton] at he
      rw [he]
      exact .str (by decide)
  have hv : (Value.list [.int (-7), .float ⟨0x8000000000000000⟩,
      .object [(Text.ofString "k", .str [0xE9])]]).Plain := .list fun x hx => by
    simp only [List.mem_cons, List.not_mem_nil, or_false] at hx
    rcases hx with rfl | rfl | rfl
    · -- seven is far within the digit limit, which stays symbolic
      refine .int ?_
      generalize hN : digitLimit = N
      have h := Nat.le_self_pow (show N ≠ 0 by rw [← hN]; decide) 10
      rw [← Nat.pow_eq] at h
      exact Nat.lt_of_lt_of_le (by decide) h
    · exact .float (by decide)
    · exact hobj
  have hroom : 0 + 3 * (Value.list [.int (-7), .float ⟨0x8000000000000000⟩,
      .object [(Text.ofString "k", .str [0xE9])]]).nativeFrames + 15 ≤ Stack.limit := by decide
  exact ⟨hv, hroom, constant_round_trip hv hroom⟩

/-- A text beyond the Basic Multilingual Plane does not come back: its JSON text escapes
the code point as a surrogate pair, and the reader decodes each half on its own. -/
theorem constant_astral_text :
    ∃ f, Formula.constant (.str [0x1F600]) = some f ∧ ∃ g, Formula.parse 0 f.text = .ok g ∧
      ∀ o ctx d, g.evaluate o ctx d = .ok (.ok (.str [0xD83D, 0xDE00])) := by
  have hts : Token.scan (Json.quote [0x1F600]) =
      some [.string ([0x1F600].flatMap Json.escapeCodePoint)] := by
    simpa [Token.scan_nil] using Token.scan_quote [0x1F600] []
  have hs : Grammar.Sentence [.string ([0x1F600].flatMap Json.escapeCodePoint)]
      (.string ([0x1F600].flatMap Json.escapeCodePoint)) :=
    Grammar.Sentence.of_unary (Grammar.derives_unary_of_atom .string)
  have hsurrogates : Expr.unescape ([0x1F600].flatMap Json.escapeCodePoint) = [0xD83D, 0xDE00] := by
    rw [List.flatMap_singleton, ← List.append_nil (Json.escapeCodePoint 0x1F600),
      Expr.unescape_escapeCodePoint_astral (by decide) (by decide), Expr.unescape.eq_1]
  have hbuild : Expr.build (Json.quote [0x1F600]) (Expr.parseShorter (Json.quote [0x1F600])) (0 + 4)
      (.string ([0x1F600].flatMap Json.escapeCodePoint)) = .ok (.lit (.str [0xD83D, 0xDE00])) := by
    simp only [Expr.build]
    rw [Expr.leaf_of_room (Expr.length_stringReach_le _) (by decide), hsurrogates]
  refine ⟨⟨Json.quote [0x1F600], .constant (.str [0x1F600])⟩, rfl, _,
    parse_eq_ok_of_build (Value.isAllBlank_cons (by decide) _) (by decide) hts hs hbuild,
    evaluate_of_yields (Expr.Yields.lit _)⟩

end Formula

end Templating
