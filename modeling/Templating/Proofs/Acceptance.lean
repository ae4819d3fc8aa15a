import Mathlib.Logic.Function.Iterate
import Templating.Proofs.Containment
import Templating.Proofs.Grammar
import Templating.Proofs.Interpolation
import Templating.Proofs.Lexing
/-!
# What the parser accepts

Expression text parses when it is not blank, leaves the reader its frames, cuts into tokens
that are a sentence of the grammar (`Grammar.Sentence`), and the sentence's tree builds
(`Expr.parse_eq_ok_iff`). The tree of a sentence is unique, so the expression is the one
its derivation dictates.

Building walks the tree from the root's frame down, two frames per operand, four to the
items of a call or an array and six to the values of an object (`Surface.reach`). Where
the stack has room for the whole tree, building succeeds exactly when the tree passes the
checks the grammar leaves to it (`Surface.Checks`, `Expr.build_ok_iff`): every call names
`if` with three arguments or a builtin, every integer literal is one that reading accepts,
and every template's `${` is closed, with each placeholder body parsing in its turn.

The checks read only the tree's number literals and templates (`Surface.literals`,
`Surface.Checks.congr`), which are tokens of the scan (`Grammar.Derives.literals_subset`).
What the scanner reads (`Token.digits_of_number_mem`, `Token.length_lt_of_template_mem`)
then turns them into the grammar's own terms: an integer literal has at most `digitLimit`
digits, and a placeholder body, shorter than the text, is parsed as a text of its own
(`Expr.agree_of_scan`).

Without room on the stack the law fails: six hundred negations of `1` are a sentence that
passes every check, yet from the depth a formula is parsed at, its innermost leaf lies past
the stack's limit (`Expr.parse_deep_negation`).

Main statements:

    parse depth source = ok x ↔ not blank ∧ room to read ∧
      ∃ ts s, scan source = some ts ∧ Sentence ts s ∧ build … s = ok x    (parse_eq_ok_iff)
    frame + s.reach + 9 ≤ limit →
      ((∃ x, build … frame s = ok x) ↔ s.Checks NumberFits sub frame)      (build_ok_iff)
    scan source = some ts → Sentence ts s → depth + 3 + s.reach + 9 ≤ limit →
      ((∃ x, parse depth source = ok x) ↔
        not blank ∧ s.Checks LiteralFits parse (depth + 3))       (parse_accepts_sentences)
-/

namespace Templating

namespace Expr

/-! ## Templates -/

/-- The bodies of a template's `${…}` placeholders, left to right; none when some `${` has
no closing brace. -/
def placeholders : Text → Option (List Text)
  | [] => some []
  | 0x24 :: 0x7B :: rest =>
    match braceEnd rest 0 none with
    | none => none
    | some n => (placeholders (rest.drop (n + 1))).map (rest.take n :: ·)
  | _ :: rest => placeholders rest
termination_by t => t.length
decreasing_by all_goals simp; try omega

theorem placeholders_cons {c : Nat} {rest : Text} (h : ∀ r, c :: rest ≠ 0x24 :: 0x7B :: r) :
    placeholders (c :: rest) = placeholders rest := by
  rw [placeholders]
  rintro r rfl rfl
  exact h r rfl

/-- A template body splits into its parts exactly when each `${` is closed and `sub`
parses the body of each placeholder. -/
theorem templateParts_ok_iff {source : Text} {sub : Text → Except ParseError Expr}
    (t run : Text) :
    (∃ ps, templateParts source sub t run = .ok ps) ↔
      ∃ bodies, placeholders t = some bodies ∧ ∀ b ∈ bodies, ∃ e, sub b = .ok e := by
  fun_induction templateParts source sub t run with
  | case1 => simp [placeholders]
  | case2 rest run ih =>
    rw [ih, placeholders_cons (by simp), placeholders_cons (by simp)]
  | case3 rest run hn => simp [placeholders, hn]
  | case4 rest run n hn ih =>
    have hp : placeholders (0x24 :: 0x7B :: rest) =
        (placeholders (rest.drop (n + 1))).map (rest.take n :: ·) := by
      rw [placeholders, hn]
    rw [exists_seq_eq_ok, ih, hp]
    constructor
    · rintro ⟨hfirst, bs, hbs, hall⟩
      exact ⟨_, by rw [hbs]; rfl, List.forall_mem_cons.2 ⟨hfirst, hall⟩⟩
    · rintro ⟨bodies, hbodies, hall⟩
      obtain ⟨bs, hbs, rfl⟩ := Option.map_eq_some_iff.1 hbodies
      exact ⟨(List.forall_mem_cons.1 hall).1, bs, hbs, (List.forall_mem_cons.1 hall).2⟩
  | case5 c rest run _ hopen ih =>
    rw [ih, placeholders_cons fun r hr => hopen r (List.cons.inj hr).1 (List.cons.inj hr).2]

theorem length_lt_of_mem_placeholders {t : Text} {bodies : List Text} {p : Text} :
    placeholders t = some bodies → p ∈ bodies → p.length < t.length := by
  fun_induction placeholders t generalizing bodies with
  | case1 =>
    intro h hp
    simp only [Option.some.injEq] at h
    subst h
    simp at hp
  | case2 =>
    intro h
    simp at h
  | case3 rest n hn ih =>
    intro h hp
    obtain ⟨bs, hbs, rfl⟩ := Option.map_eq_some_iff.1 h
    rcases List.mem_cons.1 hp with rfl | hp
    · simp only [List.length_take, List.length_cons]
      omega
    · have := ih hbs hp
      simp only [List.length_drop, List.length_cons] at this ⊢
      omega
  | case4 c rest _ ih =>
    intro h hp
    have := ih h hp
    simp only [List.length_cons]
    omega

/-! ## The checks of building -/

theorem leaf_of_room {rule : Text} {table : List Reach} {frame : Nat}
    {built : Except ParseError Expr} (hlen : table.length ≤ 9) (h : frame + 9 ≤ Stack.limit) :
    leaf rule table frame built = built := by
  simp [leaf, leafFailure?_eq_none (show frame + table.length ≤ Stack.limit by omega)]

theorem length_stringReach_le (escaped : Bool) : (stringReach escaped).length ≤ 9 := by
  cases escaped <;> decide

theorem length_templateReach_le (empty : Bool) : (templateReach empty).length ≤ 9 := by
  cases empty <;> decide

/-- A number literal that building accepts: a double, or an integer within the digit
limit. -/
def NumberFits (t : Text) : Prop :=
  t.any (fun c => c = 0x2E || c = 0x65 || c = 0x45) = true ∨
    ∀ d, Reading.readInt t ≠ .error (.tooManyDigits d)

theorem exists_number_eq_ok (t : Text) : (∃ v, number t = .ok v) ↔ NumberFits t := by
  by_cases hx : t.any (fun c => c = 0x2E || c = 0x65 || c = 0x45) = true
  · simp [number, NumberFits, hx]
  · cases hr : Reading.readInt t with
    | ok n => simp [number, NumberFits, hx, hr]
    | error e => cases e <;> simp [number, NumberFits, hx, hr]

/-- A number literal within the limit: with a point or an exponent, or with at most
`digitLimit` digits. -/
def LiteralFits (t : Text) : Prop :=
  t.any (fun c => c = 0x2E || c = 0x65 || c = 0x45) = true ∨ t.length ≤ digitLimit

theorem numberFits_iff_literalFits {n : Text}
    (hdigits : n.any (fun c => c = 0x2E || c = 0x65 || c = 0x45) = false →
      n ≠ [] ∧ ∀ c ∈ n, Text.isDigit c = true) :
    NumberFits n ↔ LiteralFits n := by
  unfold NumberFits LiteralFits
  cases hx : n.any (fun c => c = 0x2E || c = 0x65 || c = 0x45)
  · obtain ⟨hne, hd⟩ := hdigits hx
    rw [Reading.readInt_digits hne hd]
    by_cases hlim : digitLimit < n.length
    · simp only [if_pos hlim]
      simp only [Bool.false_eq_true, false_or]
      exact iff_of_false (fun h => h n.length rfl) (by omega)
    · simp only [if_neg hlim]
      simp only [Bool.false_eq_true, false_or]
      exact iff_of_true (fun d h => by cases h) (by omega)
  · simp

/-- A call that building accepts: `if` with three arguments, or a builtin's name. -/
def CallOk (n : Text) (arity : Nat) : Prop :=
  if n = Text.ofString "if" then arity = 3 else (Builtin.ofName? n).isSome = true

theorem length_of_buildList_ok {source : Text} {sub : Nat → Text → Except ParseError Expr}
    {frame : Nat} {ss : List Surface} {es : List Expr}
    (h : buildList source sub frame ss = .ok es) : es.length = ss.length := by
  induction ss generalizing es with
  | nil =>
    simp only [buildList, Except.ok.injEq] at h
    subst h
    rfl
  | cons s ss ih =>
    simp only [buildList] at h
    cases he : build source sub frame s with
    | error err => simp [he, bind, Except.bind] at h
    | ok e =>
      cases hes : buildList source sub frame ss with
      | error err => simp [he, hes, bind, Except.bind] at h
      | ok es' =>
        simp only [he, hes, bind, Except.bind, pure, Except.pure, Except.ok.injEq] at h
        subst h
        simp [ih hes]

end Expr

namespace Surface

mutual

/-- How many frames below its root's frame building a tree goes: two per operand, four to
the items of a call or an array, six to the values of an object. -/
def reach : Surface → Nat
  | .member t _ | .not t | .negate t | .plus t => t.reach + 2
  | .index l r | .and l r | .or l r | .binary _ l r => max l.reach r.reach + 2
  | .call _ items | .array items => reachList items + 4
  | .object ps => reachPairs ps + 6
  | .number _ | .string _ | .template _ | .constant _ | .name _ => 0

/-- The reach of the deepest of a list of trees. -/
def reachList : List Surface → Nat
  | [] => 0
  | s :: ss => max s.reach (reachList ss)

/-- The reach of the deepest value of an object's entries. -/
def reachPairs : List (SurfaceKey × Surface) → Nat
  | [] => 0
  | (_, s) :: ps => max s.reach (reachPairs ps)

end

mutual

/-- The checks that building makes of a tree whose root is built at depth `frame`, apart
from the stack's: calls name `if` with three arguments or a builtin, number literals are
ones that `fits` accepts, and in a template each `${` is closed and each placeholder's body
is parsed by `sub`, seven frames below the template. -/
def Checks (fits : Text → Prop) (sub : Nat → Text → Except ParseError Expr) :
    (frame : Nat) → (s : Surface) → Prop
  | _, .number t => fits t
  | frame, .template b =>
    ∃ bodies, Expr.placeholders b = some bodies ∧ ∀ p ∈ bodies, ∃ e, sub (frame + 7) p = .ok e
  | frame, .member t _ | frame, .not t | frame, .negate t | frame, .plus t =>
    Checks fits sub (frame + 2) t
  | frame, .index l r | frame, .and l r | frame, .or l r | frame, .binary _ l r =>
    Checks fits sub (frame + 2) l ∧ Checks fits sub (frame + 2) r
  | frame, .call n items => ChecksList fits sub (frame + 4) items ∧ Expr.CallOk n items.length
  | frame, .array items => ChecksList fits sub (frame + 4) items
  | frame, .object ps => ChecksPairs fits sub (frame + 6) ps
  | _, .string _ | _, .constant _ | _, .name _ => True

/-- The checks of each of a list of trees, all built at depth `frame`. -/
def ChecksList (fits : Text → Prop) (sub : Nat → Text → Except ParseError Expr) :
    (frame : Nat) → (ss : List Surface) → Prop
  | _, [] => True
  | frame, s :: ss => Checks fits sub frame s ∧ ChecksList fits sub frame ss

/-- The checks of the values of an object's entries, all built at depth `frame`. -/
def ChecksPairs (fits : Text → Prop) (sub : Nat → Text → Except ParseError Expr) :
    (frame : Nat) → (ps : List (SurfaceKey × Surface)) → Prop
  | _, [] => True
  | frame, (_, s) :: ps => Checks fits sub frame s ∧ ChecksPairs fits sub frame ps

end

mutual

/-- The tokens of a tree's number literals and templates, left to right. -/
def literals : Surface → List Token
  | .number t => [.number t]
  | .template b => [.template b]
  | .member t _ | .not t | .negate t | .plus t => t.literals
  | .index l r | .and l r | .or l r | .binary _ l r => l.literals ++ r.literals
  | .call _ items | .array items => literalsList items
  | .object ps => literalsPairs ps
  | .string _ | .constant _ | .name _ => []

/-- The number and template tokens of a list of trees. -/
def literalsList : List Surface → List Token
  | [] => []
  | s :: ss => s.literals ++ literalsList ss

/-- The number and template tokens of the values of an object's entries. -/
def literalsPairs : List (SurfaceKey × Surface) → List Token
  | [] => []
  | (_, s) :: ps => s.literals ++ literalsPairs ps

end

/-- Two ways of checking agree on some literals: they accept the same numbers among them,
and their parsers give the same on the placeholders of their templates. -/
structure Agree (fits fits' : Text → Prop) (sub sub' : Nat → Text → Except ParseError Expr)
    (lits : List Token) : Prop where
  numbers : ∀ t, .number t ∈ lits → (fits t ↔ fits' t)
  templates : ∀ b, .template b ∈ lits → ∀ bodies, Expr.placeholders b = some bodies →
    ∀ p ∈ bodies, ∀ d, sub d p = sub' d p

section Congr

variable {fits fits' : Text → Prop} {sub sub' : Nat → Text → Except ParseError Expr}

theorem Agree.left {xs ys : List Token} (h : Agree fits fits' sub sub' (xs ++ ys)) :
    Agree fits fits' sub sub' xs :=
  ⟨fun t ht => h.numbers t (List.mem_append_left _ ht),
    fun b hb => h.templates b (List.mem_append_left _ hb)⟩

theorem Agree.right {xs ys : List Token} (h : Agree fits fits' sub sub' (xs ++ ys)) :
    Agree fits fits' sub sub' ys :=
  ⟨fun t ht => h.numbers t (List.mem_append_right _ ht),
    fun b hb => h.templates b (List.mem_append_right _ hb)⟩

mutual

/-- The checks of a tree read only its number literals and the placeholders of its
templates: two ways of checking that agree there agree on the tree. -/
theorem Checks.congr : ∀ (frame : Nat) (s : Surface), Agree fits fits' sub sub' s.literals →
    (s.Checks fits sub frame ↔ s.Checks fits' sub' frame)
  | _, .number t, h => h.numbers t (List.mem_singleton_self _)
  | frame, .template b, h => by
    have hsame := h.templates b (List.mem_singleton_self _)
    simp only [Checks]
    constructor
    · rintro ⟨bodies, hb, hall⟩
      exact ⟨bodies, hb, fun p hp => hsame bodies hb p hp (frame + 7) ▸ hall p hp⟩
    · rintro ⟨bodies, hb, hall⟩
      exact ⟨bodies, hb, fun p hp => (hsame bodies hb p hp (frame + 7)).symm ▸ hall p hp⟩
  | frame, .member t _, h | frame, .not t, h | frame, .negate t, h | frame, .plus t, h =>
    Checks.congr (frame + 2) t h
  | frame, .index l r, h | frame, .and l r, h | frame, .or l r, h | frame, .binary _ l r, h =>
    and_congr (Checks.congr (frame + 2) l h.left) (Checks.congr (frame + 2) r h.right)
  | frame, .call _ items, h => and_congr_left' (ChecksList.congr (frame + 4) items h)
  | frame, .array items, h => ChecksList.congr (frame + 4) items h
  | frame, .object ps, h => ChecksPairs.congr (frame + 6) ps h
  | _, .string _, _ | _, .constant _, _ | _, .name _, _ => Iff.rfl

theorem ChecksList.congr : ∀ (frame : Nat) (ss : List Surface),
    Agree fits fits' sub sub' (literalsList ss) →
      (ChecksList fits sub frame ss ↔ ChecksList fits' sub' frame ss)
  | _, [], _ => Iff.rfl
  | frame, s :: ss, h =>
    and_congr (Checks.congr frame s h.left) (ChecksList.congr frame ss h.right)

theorem ChecksPairs.congr : ∀ (frame : Nat) (ps : List (SurfaceKey × Surface)),
    Agree fits fits' sub sub' (literalsPairs ps) →
      (ChecksPairs fits sub frame ps ↔ ChecksPairs fits' sub' frame ps)
  | _, [], _ => Iff.rfl
  | frame, (_, s) :: ps, h =>
    and_congr (Checks.congr frame s h.left) (ChecksPairs.congr frame ps h.right)

end

end Congr

end Surface

namespace Expr

section Build

variable {source : Text} {sub : Nat → Text → Except ParseError Expr}

mutual

/-- **Building with room on the stack.** With room below its frame for the whole tree,
building succeeds exactly when the tree passes the checks. -/
theorem build_ok_iff : ∀ (frame : Nat) (s : Surface), frame + s.reach + 9 ≤ Stack.limit →
    ((∃ x, build source sub frame s = .ok x) ↔ s.Checks NumberFits sub frame)
  | frame, .number t, hroom => by
    have h : frame + 9 ≤ Stack.limit := by simpa [Surface.reach] using hroom
    simp only [build, Surface.Checks, ← exists_number_eq_ok]
    split
    · rename_i v hv
      rw [leaf_of_room (by decide) h]
      simp [hv]
    · rename_i e he
      rw [leaf_of_room (by decide) h]
      simp [he]
  | frame, .string b, hroom => by
    have h : frame + 9 ≤ Stack.limit := by simpa [Surface.reach] using hroom
    simp [build, Surface.Checks, leaf_of_room (length_stringReach_le _) h]
  | frame, .template b, hroom => by
    have h : frame + 9 ≤ Stack.limit := by simpa [Surface.reach] using hroom
    simp only [build, Surface.Checks, leaf_of_room (length_templateReach_le _) h]
    rw [exists_map_mapError_eq_ok, templateParts_ok_iff]
  | frame, .constant _, hroom => by
    have h : frame + 9 ≤ Stack.limit := by simpa [Surface.reach] using hroom
    simp [build, Surface.Checks, leaf_of_room (show bareReach.length ≤ 9 by decide) h]
  | frame, .name _, hroom => by
    have h : frame + 9 ≤ Stack.limit := by simpa [Surface.reach] using hroom
    simp [build, Surface.Checks, leaf_of_room (show tokenReach.length ≤ 9 by decide) h]
  | frame, .array [], hroom | frame, .object [], hroom => by
    have h : frame + 9 ≤ Stack.limit := by
      simp [Surface.reach, Surface.reachList, Surface.reachPairs] at hroom; omega
    simp [build, Surface.Checks, Surface.ChecksList, Surface.ChecksPairs,
      leaf_of_room (show bareReach.length ≤ 9 by decide) h]
  | frame, .member t _, hroom | frame, .not t, hroom | frame, .negate t, hroom
  | frame, .plus t, hroom => by
    have h : frame + 2 + t.reach + 9 ≤ Stack.limit := by simp [Surface.reach] at hroom; omega
    simp only [build, Surface.Checks, exists_map_eq_ok]
    exact build_ok_iff (frame + 2) t h
  | frame, .index l r, hroom | frame, .and l r, hroom | frame, .or l r, hroom
  | frame, .binary _ l r, hroom => by
    have hl : frame + 2 + l.reach + 9 ≤ Stack.limit := by simp [Surface.reach] at hroom; omega
    have hr : frame + 2 + r.reach + 9 ≤ Stack.limit := by simp [Surface.reach] at hroom; omega
    simp only [build, Surface.Checks, exists_seq_eq_ok, build_ok_iff (frame + 2) l hl,
      build_ok_iff (frame + 2) r hr]
  | frame, .call n [], hroom => by
    have h : frame + 9 ≤ Stack.limit := by
      simp [Surface.reach, Surface.reachList] at hroom; omega
    simp only [build, Surface.Checks, Surface.ChecksList, true_and, List.length_nil, CallOk]
    by_cases hif : n = Text.ofString "if"
    · simp [hif, leaf_of_room (show tokenReach.length ≤ 9 by decide) h]
    · simp only [hif, if_false]
      cases hf : Builtin.ofName? n with
      | none => simp [leaf_of_room (show unknownReach.length ≤ 9 by decide) h]
      | some f => simp [leaf_of_room (show tokenReach.length ≤ 9 by decide) h]
  | frame, .call n (a :: as), hroom => by
    have h : frame + 4 + Surface.reachList (a :: as) + 9 ≤ Stack.limit := by
      simp only [Surface.reach] at hroom; omega
    simp only [build, Surface.Checks, exists_bind_eq_ok,
      ← buildList_ok_iff (frame + 4) (a :: as) h]
    constructor
    · rintro ⟨es, hes, y, hy⟩
      refine ⟨⟨es, hes⟩, ?_⟩
      rw [← length_of_buildList_ok hes]
      unfold CallOk
      split at hy
      · rename_i hif
        split at hy
        · simp [hif]
        · cases hy
      · rename_i hif
        split at hy
        · rename_i f hf
          simp [hif, hf]
        · cases hy
    · rintro ⟨⟨es, hes⟩, hcall⟩
      refine ⟨es, hes, ?_⟩
      rw [← length_of_buildList_ok hes] at hcall
      unfold CallOk at hcall
      split
      · rename_i hif
        rw [if_pos hif] at hcall
        rcases es with _ | ⟨c, _ | ⟨d, _ | ⟨e, _ | ⟨_, _⟩⟩⟩⟩ <;> simp at hcall
        exact ⟨_, rfl⟩
      · rename_i hif
        rw [if_neg hif] at hcall
        obtain ⟨f, hf⟩ := Option.isSome_iff_exists.1 hcall
        rw [hf]
        exact ⟨_, rfl⟩
  | frame, .array (a :: as), hroom => by
    have h : frame + 4 + Surface.reachList (a :: as) + 9 ≤ Stack.limit := by
      simp only [Surface.reach] at hroom; omega
    simp only [build, Surface.Checks, exists_map_eq_ok]
    exact buildList_ok_iff (frame + 4) (a :: as) h
  | frame, .object (p :: ps), hroom => by
    have h : frame + 6 + Surface.reachPairs (p :: ps) + 9 ≤ Stack.limit := by
      simp only [Surface.reach] at hroom; omega
    simp only [build, Surface.Checks, exists_map_eq_ok]
    exact buildPairs_ok_iff (frame + 6) (p :: ps) h

theorem buildList_ok_iff : ∀ (frame : Nat) (ss : List Surface),
    frame + Surface.reachList ss + 9 ≤ Stack.limit →
      ((∃ es, buildList source sub frame ss = .ok es) ↔ Surface.ChecksList NumberFits sub frame ss)
  | _, [], _ => by simp [buildList, Surface.ChecksList]
  | frame, s :: ss, hroom => by
    have hs : frame + s.reach + 9 ≤ Stack.limit := by simp [Surface.reachList] at hroom; omega
    have hss : frame + Surface.reachList ss + 9 ≤ Stack.limit := by
      simp [Surface.reachList] at hroom; omega
    simp only [buildList, Surface.ChecksList, exists_seq_eq_ok, build_ok_iff frame s hs,
      buildList_ok_iff frame ss hss]

theorem buildPairs_ok_iff : ∀ (frame : Nat) (ps : List (SurfaceKey × Surface)),
    frame + Surface.reachPairs ps + 9 ≤ Stack.limit →
      ((∃ es, buildPairs source sub frame ps = .ok es) ↔
        Surface.ChecksPairs NumberFits sub frame ps)
  | _, [], _ => by simp [buildPairs, Surface.ChecksPairs]
  | frame, (_, s) :: ps, hroom => by
    have hs : frame + s.reach + 9 ≤ Stack.limit := by simp [Surface.reachPairs] at hroom; omega
    have hps : frame + Surface.reachPairs ps + 9 ≤ Stack.limit := by
      simp [Surface.reachPairs] at hroom; omega
    simp only [buildPairs, Surface.ChecksPairs, exists_seq_eq_ok, build_ok_iff frame s hs,
      buildPairs_ok_iff frame ps hps]

end

end Build

end Expr

namespace Grammar

/-- The number and template tokens of what a nonterminal derives. -/
def Rule.literals : (r : Rule) → r.Tree → List Token
  | .tier _, s => Surface.literals s
  | .arguments, ss => Surface.literalsList ss
  | .pairs, ps => Surface.literalsPairs ps

theorem Tier.literals_operator? {t : Tier} {tok : Token} {c : Surface → Surface → Surface}
    (h : t.operator? tok = some c) (l r : Surface) :
    (c l r).literals = l.literals ++ r.literals := by
  cases t <;> cases tok <;> simp only [Tier.operator?, reduceCtorEq] at h
  all_goals
    rename_i s
    cases s <;> simp only [Option.some.injEq, reduceCtorEq] at h <;> subst h <;> rfl

theorem literals_unaryOp? {tok : Token} {c : Surface → Surface} (h : unaryOp? tok = some c)
    (e : Surface) : (c e).literals = e.literals := by
  cases tok with
  | sym s =>
    cases s <;> simp only [unaryOp?, Option.some.injEq, reduceCtorEq] at h <;> subst h <;> rfl
  | name _ | number _ | string _ | template _ => simp [unaryOp?] at h

theorem Derives.literals_subset {r : Rule} {ts : List Token} {x : r.Tree}
    (h : Derives r ts x) : ∀ tok ∈ r.literals x, tok ∈ ts := by
  induction h with
  | down _ _ ih => exact ih
  | operator hc _ _ ihl ihr =>
    intro tok htok
    simp only [Rule.literals, Tier.literals_operator? hc, List.mem_append] at htok
    rcases htok with h | h
    · exact List.mem_append_left _ (ihl tok h)
    · exact List.mem_append_right _ (List.mem_cons_of_mem _ (ihr tok h))
  | power _ _ ihl ihr =>
    intro tok htok
    simp only [Rule.literals, Surface.literals, List.mem_append] at htok
    rcases htok with h | h
    · exact List.mem_append_left _ (ihl tok h)
    · exact List.mem_append_right _ (List.mem_cons_of_mem _ (ihr tok h))
  | unaryOp hc _ ih =>
    intro tok htok
    simp only [Rule.literals, literals_unaryOp? hc] at htok
    exact List.mem_cons_of_mem _ (ih tok htok)
  | member _ ih =>
    intro tok htok
    exact List.mem_append_left _ (ih tok htok)
  | index _ _ iht ihk =>
    intro tok htok
    simp only [Rule.literals, Surface.literals, List.mem_append] at htok
    rcases htok with h | h
    · exact List.mem_append_left _ (List.mem_append_left _ (iht tok h))
    · exact List.mem_append_left _ (List.mem_append_right _ (List.mem_cons_of_mem _ (ihk tok h)))
  | call _ _ ih =>
    intro tok htok
    exact List.mem_cons_of_mem _ (List.mem_cons_of_mem _ (List.mem_append_left _ (ih tok htok)))
  | paren _ ih | array _ ih | object _ ih =>
    intro tok htok
    exact List.mem_cons_of_mem _ (List.mem_append_left _ (ih tok htok))
  | number | template =>
    intro tok htok
    simpa [Rule.literals, Surface.literals] using htok
  | callEmpty _ | string | constant _ | var _ | arrayEmpty | objectEmpty =>
    intro tok htok
    simp [Rule.literals, Surface.literals, Surface.literalsList, Surface.literalsPairs] at htok
  | argument _ ih =>
    intro tok htok
    simp only [Rule.literals, Surface.literalsList, List.append_nil] at htok
    exact ih tok htok
  | arguments _ _ ihe ihes =>
    intro tok htok
    simp only [Rule.literals, Surface.literalsList, List.mem_append] at htok
    rcases htok with h | h
    · exact List.mem_append_left _ (ihe tok h)
    · exact List.mem_append_right _ (List.mem_cons_of_mem _ (ihes tok h))
  | pair _ ih =>
    intro tok htok
    simp only [Rule.literals, Surface.literalsPairs, List.append_nil] at htok
    exact List.mem_cons_of_mem _ (List.mem_cons_of_mem _ (ih tok htok))
  | pairs _ _ ihe ihps =>
    intro tok htok
    simp only [Rule.literals, Surface.literalsPairs, List.mem_append] at htok
    rcases htok with h | h
    · exact List.mem_cons_of_mem _ (List.mem_cons_of_mem _ (List.mem_append_left _ (ihe tok h)))
    · exact List.mem_cons_of_mem _ (List.mem_cons_of_mem _
        (List.mem_append_right _ (List.mem_cons_of_mem _ (ihps tok h))))

theorem Sentence.of_unary {ts : List Token} {e : Surface} (h : Derives (.tier .unary) ts e) :
    Sentence ts e :=
  .down (by decide) (.down (by decide) (.down (by decide) (.down (by decide)
    (.down (by decide) (.down (by decide) h)))))

theorem derives_unary_number (t : Text) : Derives (.tier .unary) [.number t] (.number t) :=
  .down (by decide) (.down (by decide) .number)

end Grammar

namespace Expr

/-! ## Parsing -/

/-- How the parts of a text's templates are parsed: each as a text of its own, from the
depth given, when shorter than the text. -/
def parseShorter (source : Text) (depth : Nat) (inner : Text) : Except ParseError Expr :=
  if inner.length < source.length then parse depth inner else .error (.malformed inner)

/-- Text that is not blank, with room to be read, and whose tokens are a sentence parses to
what the sentence's tree builds to, three frames deeper. -/
theorem parse_eq_build {depth : Nat} {source : Text} {ts : List Token} {s : Surface}
    (hb : Text.isAllBlank source = false) (hroom : depth + scanFrames ≤ Stack.limit)
    (hts : Token.scan source = some ts) (hs : Grammar.Sentence ts s) :
    parse depth source = build source (parseShorter source) (depth + 3) s := by
  rw [parse, if_neg (by simp [hb]), if_neg (by omega), hts, Option.bind_some,
    Surface.parse?_of_sentence hs]
  rfl

/-- **What parses.** Text parses into `x` exactly when it is not blank, leaves the reader
its frames, and its tokens are a sentence whose tree builds into `x`. -/
theorem parse_eq_ok_iff {depth : Nat} {source : Text} {x : Expr} :
    parse depth source = .ok x ↔
      Text.isAllBlank source = false ∧ depth + scanFrames ≤ Stack.limit ∧
      ∃ ts s, Token.scan source = some ts ∧ Grammar.Sentence ts s ∧
        build source (parseShorter source) (depth + 3) s = .ok x := by
  constructor
  · intro h
    -- each way of failing before the build is ruled out by the parse's success
    have hb : Text.isAllBlank source = false := by
      rw [parse] at h
      cases hb : Text.isAllBlank source
      · rfl
      · simp [hb] at h
    have hroom : depth + scanFrames ≤ Stack.limit := by
      rw [parse, if_neg (by simp [hb])] at h
      by_cases hr : Stack.limit < depth + scanFrames
      · simp [hr] at h
      · omega
    obtain ⟨ts, s, hts, hs⟩ : ∃ ts s, Token.scan source = some ts ∧ Surface.parse? ts = some s := by
      rw [parse, if_neg (by simp [hb]), if_neg (by omega)] at h
      cases hts : Token.scan source with
      | none => simp [hts] at h
      | some ts =>
        cases hs : Surface.parse? ts with
        | none => simp [hts, hs] at h
        | some s => exact ⟨ts, s, rfl, hs⟩
    have hsent := Surface.sentence_of_parse? hs
    exact ⟨hb, hroom, ts, s, hts, hsent, (parse_eq_build hb hroom hts hsent).symm.trans h⟩
  · rintro ⟨hb, hroom, ts, s, hts, hs, h⟩
    exact (parse_eq_build hb hroom hts hs).trans h

/-- On the literals of a scanned sentence, building's checks are the grammar's: a number
is accepted exactly when it is within the digit limit, and a placeholder, shorter than the
text, is parsed as a text of its own. -/
theorem agree_of_scan {source : Text} {ts : List Token} {s : Surface}
    (hts : Token.scan source = some ts) (hs : Grammar.Sentence ts s) :
    Surface.Agree NumberFits LiteralFits (parseShorter source) parse s.literals where
  numbers t ht :=
    numberFits_iff_literalFits (Token.digits_of_number_mem hts (hs.literals_subset _ ht))
  templates b hb bodies hbodies p hp d := by
    have hbody := Token.length_lt_of_template_mem hts (hs.literals_subset _ hb)
    have hpart := length_lt_of_mem_placeholders hbodies hp
    rw [parseShorter, if_pos (by omega)]

/-- **The parser accepts exactly its grammar.** Text parses into `x` exactly when it is not
blank, leaves the reader its frames, and its tokens are a sentence whose tree builds into
`x`; a sentence has one tree. With room on the stack for that tree, the text parses exactly
when the tree's calls name `if` with three arguments or a builtin, its number literals are
within the digit limit, and its templates close every `${` with a body that parses in its
turn. -/
theorem parse_accepts_sentences (depth : Nat) (source : Text) :
    (∀ x, parse depth source = .ok x ↔
      Text.isAllBlank source = false ∧ depth + scanFrames ≤ Stack.limit ∧
      ∃ ts s, Token.scan source = some ts ∧ Grammar.Sentence ts s ∧
        build source (parseShorter source) (depth + 3) s = .ok x) ∧
    (∀ ts s s', Grammar.Sentence ts s → Grammar.Sentence ts s' → s = s') ∧
    (∀ ts s, Token.scan source = some ts → Grammar.Sentence ts s →
      depth + 3 + s.reach + 9 ≤ Stack.limit →
      ((∃ x, parse depth source = .ok x) ↔
        Text.isAllBlank source = false ∧ s.Checks LiteralFits parse (depth + 3))) := by
  refine ⟨fun x => parse_eq_ok_iff, fun ts s s' hs hs' => Grammar.Sentence.unique hs hs', ?_⟩
  intro ts s hts hs hroom
  by_cases hb : Text.isAllBlank source = false
  · rw [parse_eq_build hb (by simp [scanFrames]; omega) hts hs, build_ok_iff _ _ hroom,
      Surface.Checks.congr _ _ (agree_of_scan hts hs)]
    simp [hb]
  · have hnot : ∀ x, parse depth source ≠ .ok x := fun x h => hb (parse_eq_ok_iff.1 h).1
    simp [hb, hnot]

theorem parse_accepts_sentences_one :
    Token.scan [0x31] = some [.number [0x31]] ∧
    Grammar.Sentence [.number [0x31]] (.number [0x31]) ∧
    7 + 3 + (Surface.number [0x31]).reach + 9 ≤ Stack.limit ∧
    ((∃ x, parse 7 [0x31] = .ok x) ↔
      Text.isAllBlank [0x31] = false ∧ (Surface.number [0x31]).Checks LiteralFits parse (7 + 3)) :=
  have hts : Token.scan [0x31] = some [.number [0x31]] := by decide +kernel
  have hs := Grammar.Sentence.of_unary (Grammar.derives_unary_number [0x31])
  have hroom : 7 + 3 + (Surface.number [0x31]).reach + 9 ≤ Stack.limit := by decide
  ⟨hts, hs, hroom, (parse_accepts_sentences 7 [0x31]).2.2 _ _ hts hs hroom⟩

/-! ## Deep trees -/

theorem leaf_past_limit {rule : Text} {table : List Reach} {frame : Nat}
    {built : Except ParseError Expr} (h : Stack.limit < frame) :
    leaf rule table frame built = .error (.abort (.stack [])) := by
  simp [leaf, leafFailure?, h]

section Negations

variable {source : Text} {sub : Nat → Text → Except ParseError Expr}

/-- Each negation builds its operand two frames deeper, so a failure of the innermost tree
is the failure of the whole chain. -/
theorem build_negations_error {err : ParseError} (n frame : Nat) (e : Surface)
    (h : build source sub (frame + 2 * n) e = .error err) :
    build source sub frame (Surface.negate^[n] e) = .error err := by
  induction n generalizing frame with
  | zero => exact h
  | succ n ih =>
    rw [Function.iterate_succ_apply']
    simp only [build, map_eq_error]
    exact ih (frame + 2) (by rw [show frame + 2 + 2 * n = frame + 2 * (n + 1) by omega]; exact h)

end Negations

end Expr

namespace Surface

theorem checks_negations (fits : Text → Prop) (sub : Nat → Text → Except ParseError Expr)
    (n frame : Nat) (e : Surface) :
    (Surface.negate^[n] e).Checks fits sub frame ↔ e.Checks fits sub (frame + 2 * n) := by
  induction n generalizing frame with
  | zero => rfl
  | succ n ih =>
    rw [Function.iterate_succ_apply']
    simp only [Checks]
    rw [ih, show frame + 2 + 2 * n = frame + 2 * (n + 1) by omega]

end Surface

namespace Grammar

theorem derives_negations (n : Nat) {ts : List Token} {e : Surface}
    (h : Derives (.tier .unary) ts e) :
    Derives (.tier .unary) (List.replicate n (Token.sym .minus) ++ ts) (Surface.negate^[n] e) := by
  induction n with
  | zero => exact h
  | succ n ih =>
    rw [Function.iterate_succ_apply', List.replicate_succ, List.cons_append]
    exact .unaryOp rfl ih

end Grammar

namespace Expr

set_option maxRecDepth 2000 in
/-- Six hundred negations of `1` are not blank, their tokens are a sentence, and the
sentence's tree passes every check of building; yet from the depth a formula's text is
parsed at, the text does not parse: the tree's innermost leaf would be built 1,210 frames
down, past the stack's limit. -/
theorem parse_deep_negation :
    Text.isAllBlank (List.replicate 600 0x2D ++ [0x31]) = false ∧
    Token.scan (List.replicate 600 0x2D ++ [0x31]) =
      some (List.replicate 600 (.sym .minus) ++ [.number [0x31]]) ∧
    Grammar.Sentence (List.replicate 600 (.sym .minus) ++ [.number [0x31]])
      (Surface.negate^[600] (.number [0x31])) ∧
    (Surface.negate^[600] (.number [0x31])).Checks LiteralFits parse 10 ∧
    parse 7 (List.replicate 600 0x2D ++ [0x31]) = .error (.abort (.stack [])) := by
  have hb : Text.isAllBlank (List.replicate 600 0x2D ++ [0x31]) = false := by decide +kernel
  have hts : Token.scan (List.replicate 600 0x2D ++ [0x31]) =
      some (List.replicate 600 (.sym .minus) ++ [.number [0x31]]) := by decide +kernel
  have hs := Grammar.Sentence.of_unary
    (Grammar.derives_negations 600 (Grammar.derives_unary_number [0x31]))
  have hchecks : (Surface.negate^[600] (.number [0x31])).Checks LiteralFits parse 10 := by
    rw [Surface.checks_negations]
    exact Or.inr (by decide)
  have hparse : parse 7 (List.replicate 600 0x2D ++ [0x31]) = .error (.abort (.stack [])) := by
    rw [parse_eq_build hb (by decide) hts hs]
    apply build_negations_error 600 10
    simp only [build]
    split <;> exact leaf_past_limit (by decide)
  exact ⟨hb, hts, hs, hchecks, hparse⟩

end Expr

end Templating
