import Templating.Proofs.Acceptance
/-!
# Which failure a parse reports

Parsing reads the whole text into a concrete tree before it builds anything, and builds the
tree children before parents, left to right. So the failure a rejected text reports is
chosen in that order:

* a blank text is empty;
* a text that leaves the reader too few frames runs out of stack before any rule applies;
* a text whose tokens are no sentence of the grammar is malformed, whatever else is wrong
  with it;
* otherwise the failure is the first one met in the post-order traversal of the sentence's
  tree (`Surface.nodes`, each node with the frame it is built in) among the failures of its
  nodes (`Expr.nodeFailure?`): a leaf built past the stack's limit (`Expr.stackFailure?`), and
  the refusals of the rules (`Expr.ruleFailure?`): `if` without three arguments, a call of
  a name that is no builtin, an integer literal beyond the digit limit, and a template whose
  body fails to split (`Expr.partsFailure?`): the failure of its first placeholder that
  fails to parse, naming the placeholder's text (a failure that ends the request reported by
  the template's rule), or else its first `${` without a closing brace, naming the text
  that holds the template.

Main statements:

    templateParts source sub b run = error e ↔ partsFailure? source sub b = some e
                                                             (templateParts_eq_error_iff)
    build source sub frame s = error e ↔ s.firstFailure? source sub frame = some e
                                                                     (build_eq_error_iff)
    parse depth source = error e ↔ empty, or no room to read, or no sentence and
      malformed, or the sentence's first failure                      (parse_eq_error_iff)
-/

namespace Templating

namespace Expr

/-! ## The failures of a template -/

/-- The bodies of the `${…}` placeholders of a template body that are closed before the
first one that is not, left to right, and whether there is one that is not. -/
def openings : Text → List Text × Bool
  | [] => ([], false)
  | 0x24 :: 0x7B :: rest =>
    match braceEnd rest 0 none with
    | none => ([], true)
    | some n => ((rest.take n) :: (openings (rest.drop (n + 1))).1, (openings (rest.drop (n + 1))).2)
  | _ :: rest => openings rest
termination_by t => t.length
decreasing_by all_goals simp; try omega

theorem openings_cons {c : Nat} {rest : Text} (h : ∀ r, c :: rest ≠ 0x24 :: 0x7B :: r) :
    openings (c :: rest) = openings rest := by
  rw [openings]
  rintro r rfl rfl
  exact h r rfl

theorem length_lt_of_mem_openings {b p : Text} (h : p ∈ (openings b).1) :
    p.length < b.length := by
  fun_induction openings b with
  | case1 => simp at h
  | case2 rest hn => simp at h
  | case3 rest n hn ih =>
    simp only [List.mem_cons] at h
    rcases h with rfl | h
    · simp only [List.length_take, List.length_cons]
      omega
    · have := ih h
      simp only [List.length_drop, List.length_cons] at this ⊢
      omega
  | case4 c rest hne ih =>
    have := ih h
    simp only [List.length_cons]
    omega

/-- The failure of the first text that `sub` does not parse. -/
def firstParseFailure (sub : Text → Except ParseError Expr) : List Text → Option ParseError
  | [] => none
  | p :: ps =>
    match sub p with
    | .error e => some e
    | .ok _ => firstParseFailure sub ps

/-- The failure of splitting a template body of the text `source`, its placeholders parsed
by `sub`: the first placeholder that does not parse, or else the first `${` that no brace
closes, which names `source`. -/
def partsFailure? (source : Text) (sub : Text → Except ParseError Expr) (b : Text) :
    Option ParseError :=
  (firstParseFailure sub (openings b).1).or
    (if (openings b).2 then some (.unterminated source) else none)

/-- **Splitting a template fails at its first failing part.** The placeholders are parsed
left to right as the body is read, and an unclosed `${` ends the reading. -/
theorem templateParts_eq_error_iff {source : Text} {sub : Text → Except ParseError Expr}
    (b run : Text) (e : ParseError) :
    templateParts source sub b run = .error e ↔ partsFailure? source sub b = some e := by
  fun_induction templateParts source sub b run with
  | case1 => simp [partsFailure?, openings, firstParseFailure]
  | case2 rest run ih =>
    rw [ih, partsFailure?, partsFailure?, openings_cons (by simp), openings_cons (by simp)]
  | case3 rest run hn =>
    simp [partsFailure?, openings, hn, firstParseFailure, eq_comm]
  | case4 rest run n hn ih =>
    have ho : openings (0x24 :: 0x7B :: rest) =
        ((rest.take n) :: (openings (rest.drop (n + 1))).1, (openings (rest.drop (n + 1))).2) := by
      rw [openings, hn]
    rw [partsFailure?, ho, bind_eq_error]
    cases hp : sub (rest.take n) with
    | error e' => simp [firstParseFailure, hp]
    | ok x =>
      simp only [firstParseFailure, hp, reduceCtorEq, false_or, Except.ok.injEq, exists_eq_left']
      rw [bind_eq_error, ih, partsFailure?]
      simp [pure, Except.pure]
  | case5 c rest run _ hopen ih =>
    rw [ih, partsFailure?, partsFailure?,
      openings_cons fun r hr => hopen r (List.cons.inj hr).1 (List.cons.inj hr).2]

/-! ## The failures of a node -/

/-- How a number literal's leaf fares on the stack: as a token, or, past the digit limit,
as a literal that its rule refuses. -/
def numberReach (t : Text) : List Reach :=
  if (number t).isOk then tokenReach else longReach

/-- How a call without arguments fares on the stack: as a token, or, for a name that is
neither `if` nor a builtin, as a name that its rule refuses. -/
def callReach (n : Text) : List Reach :=
  if n ≠ Text.ofString "if" ∧ Builtin.ofName? n = none then unknownReach else tokenReach

/-- The failure of building a leaf of the tree in a frame at depth `frame` for want of
stack; nodes that are not leaves build their children deeper and never fail so. -/
def stackFailure? (frame : Nat) : Surface → Option Abort
  | .number t => leafFailure? (Text.ofString "number") (numberReach t) frame
  | .string b => leafFailure? (Text.ofString "string") (stringReach (b.contains 0x5C)) frame
  | .template b => leafFailure? (Text.ofString "template") (templateReach b.isEmpty) frame
  | .constant v => leafFailure? (constantRule v) bareReach frame
  | .name _ => leafFailure? (Text.ofString "var") tokenReach frame
  | .call n [] => leafFailure? (Text.ofString "call") (callReach n) frame
  | .array [] => leafFailure? (Text.ofString "array") bareReach frame
  | .object [] => leafFailure? (Text.ofString "object") bareReach frame
  | _ => none

/-- The refusal of a node's rule, in a frame at depth `frame`, once its children are
built: `if` with other than three arguments, a call of a name that is no builtin, an
integer literal beyond the digit limit, and a template whose body fails to split, its
placeholders parsed by `sub` seven frames below it. -/
def ruleFailure? (source : Text) (sub : Nat → Text → Except ParseError Expr) (frame : Nat) :
    Surface → Option ParseError
  | .number t =>
    match number t with
    | .ok _ => none
    | .error e => some e
  | .template b => (partsFailure? source (sub (frame + 7)) b).map ParseError.inTemplate
  | .call n args =>
    if n = Text.ofString "if" then (if args.length = 3 then none else some (.ifArity source))
    else if (Builtin.ofName? n).isSome then none else some (.unknownFunction source n)
  | _ => none

/-- The failure of building a node once its children are built: its leaf's want of
stack, else its rule's refusal. -/
def nodeFailure? (source : Text) (sub : Nat → Text → Except ParseError Expr) (frame : Nat)
    (s : Surface) : Option ParseError :=
  ((stackFailure? frame s).map .abort).or (ruleFailure? source sub frame s)

end Expr

namespace Surface

/-! ## The traversal -/

mutual

/-- The nodes of a tree whose root is built in a frame at depth `frame`, each with the
frame it is built in, children before their parent and left to right. -/
def nodes (frame : Nat) : Surface → List (Nat × Surface)
  | .member t n => t.nodes (frame + 2) ++ [(frame, .member t n)]
  | .not t => t.nodes (frame + 2) ++ [(frame, .not t)]
  | .negate t => t.nodes (frame + 2) ++ [(frame, .negate t)]
  | .plus t => t.nodes (frame + 2) ++ [(frame, .plus t)]
  | .index l r => l.nodes (frame + 2) ++ r.nodes (frame + 2) ++ [(frame, .index l r)]
  | .and l r => l.nodes (frame + 2) ++ r.nodes (frame + 2) ++ [(frame, .and l r)]
  | .or l r => l.nodes (frame + 2) ++ r.nodes (frame + 2) ++ [(frame, .or l r)]
  | .binary op l r => l.nodes (frame + 2) ++ r.nodes (frame + 2) ++ [(frame, .binary op l r)]
  | .call n items => nodesList (frame + 4) items ++ [(frame, .call n items)]
  | .array items => nodesList (frame + 4) items ++ [(frame, .array items)]
  | .object ps => nodesPairs (frame + 6) ps ++ [(frame, .object ps)]
  | s => [(frame, s)]

/-- The nodes of a list of trees, each built in a frame at depth `frame`, in order. -/
def nodesList (frame : Nat) : List Surface → List (Nat × Surface)
  | [] => []
  | s :: ss => s.nodes frame ++ nodesList frame ss

/-- The nodes of the values of object entries, each built in a frame at depth `frame`. -/
def nodesPairs (frame : Nat) : List (SurfaceKey × Surface) → List (Nat × Surface)
  | [] => []
  | (_, s) :: ps => s.nodes frame ++ nodesPairs frame ps

end

/-- The first failure met in the post-order traversal of a tree of the text `source` whose
root is built in a frame at depth `frame`. -/
def firstFailure? (s : Surface) (source : Text) (sub : Nat → Text → Except ParseError Expr)
    (frame : Nat) : Option ParseError :=
  (s.nodes frame).findSome? fun p => Expr.nodeFailure? source sub p.1 p.2

end Surface

/-! ## Failing in order -/

section Outcomes

variable {ε α β : Type}

theorem exists_ok_iff_eq_none {x : Except ε α} {o : Option ε}
    (hx : ∀ e, x = .error e ↔ o = some e) : (∃ a, x = .ok a) ↔ o = none := by
  cases x with
  | error e' =>
    have ho := (hx e').1 rfl
    simp [ho]
  | ok a =>
    refine iff_of_true ⟨a, rfl⟩ ?_
    cases ho : o with
    | none => rfl
    | some e' => cases (hx e').2 ho

theorem bind_eq_error_iff_or {x : Except ε α} {f : α → Except ε β} {o o' : Option ε}
    (hx : ∀ e, x = .error e ↔ o = some e)
    (hf : ∀ a, x = .ok a → ∀ e, f a = .error e ↔ o' = some e) (e : ε) :
    x >>= f = .error e ↔ o.or o' = some e := by
  rw [bind_eq_error, Option.or_eq_some_iff, ← hx, ← exists_ok_iff_eq_none hx]
  constructor
  · rintro (h | ⟨a, ha, h⟩)
    · exact .inl h
    · exact .inr ⟨⟨a, ha⟩, (hf a ha e).1 h⟩
  · rintro (h | ⟨⟨a, ha⟩, h⟩)
    · exact .inl h
    · exact .inr ⟨a, ha, (hf a ha e).2 h⟩

theorem findSome?_congr {f g : α → Option β} {l : List α} (h : ∀ a ∈ l, f a = g a) :
    l.findSome? f = l.findSome? g := by
  induction l with
  | nil => rfl
  | cons a l ih =>
    rw [List.findSome?_cons, List.findSome?_cons, h a (List.mem_cons_self ..),
      ih fun x hx => h x (List.mem_cons_of_mem _ hx)]

theorem map_mapError_eq_error {ε' : Type} {x : Except ε α} {f : α → β} {g : ε → ε'}
    {e : ε'} : (x.mapError g).map f = .error e ↔ ∃ e', x = .error e' ∧ g e' = e := by
  cases x with
  | error e' =>
    constructor
    · intro h
      exact ⟨e', rfl, Except.error.inj h⟩
    · rintro ⟨_, ⟨⟩, rfl⟩
      rfl
  | ok v => exact iff_of_false (fun h => by cases h) (fun ⟨_, h, _⟩ => by cases h)

theorem bind_pure_eq_error {γ : Type} {x : Except ε α} {g : α → γ} {e : ε} :
    (x >>= fun a => pure (g a)) = .error e ↔ x = .error e := by
  cases x <;> simp [bind, Except.bind, pure, Except.pure]

end Outcomes

namespace Expr

section Build

variable {source : Text} {sub : Nat → Text → Except ParseError Expr}

theorem leaf_eq_error_iff {rule : Text} {table : List Reach} {frame : Nat}
    {built : Except ParseError Expr} {o : Option ParseError}
    (hb : ∀ e, built = .error e ↔ o = some e) (e : ParseError) :
    leaf rule table frame built = .error e ↔
      ((leafFailure? rule table frame).map .abort).or o = some e := by
  unfold leaf
  cases leafFailure? rule table frame with
  | none => simpa using hb e
  | some a => simp

theorem leaf_ok_eq_error_iff {rule : Text} {table : List Reach} {frame : Nat} {x : Expr}
    (e : ParseError) :
    leaf rule table frame (.ok x) = .error e ↔
      ((leafFailure? rule table frame).map .abort).or none = some e :=
  leaf_eq_error_iff (by simp) e

theorem firstFailure?_of_nodes {s : Surface} {frame : Nat} (h : s.nodes frame = [(frame, s)]) :
    s.firstFailure? source sub frame = nodeFailure? source sub frame s := by
  rw [Surface.firstFailure?, h, List.findSome?_singleton]

theorem firstFailure?_of_parent {s : Surface} {frame : Nat} {children : List (Nat × Surface)}
    (h : s.nodes frame = children ++ [(frame, s)]) :
    s.firstFailure? source sub frame =
      (children.findSome? fun p => nodeFailure? source sub p.1 p.2).or
        (nodeFailure? source sub frame s) := by
  rw [Surface.firstFailure?, h, List.findSome?_append, List.findSome?_singleton]

theorem firstFailure?_of_children {s : Surface} {frame : Nat} {children : List (Nat × Surface)}
    (h : s.nodes frame = children ++ [(frame, s)]) (hs : nodeFailure? source sub frame s = none) :
    s.firstFailure? source sub frame =
      children.findSome? fun p => nodeFailure? source sub p.1 p.2 := by
  rw [firstFailure?_of_parent h, hs, Option.or_none]

/-- The parts of a template split as its body does, each failure reported by the
template. -/
theorem templateBuilt_eq_error_iff (b : Text) (frame : Nat) (e : ParseError) :
    ((templateParts source (sub (frame + 7)) b []).mapError ParseError.inTemplate |>.map
      Expr.template) = .error e ↔
      (partsFailure? source (sub (frame + 7)) b).map ParseError.inTemplate = some e := by
  rw [Option.map_eq_some_iff, map_mapError_eq_error]
  simp only [templateParts_eq_error_iff]

mutual

/-- **Building reports the first failure of the traversal.** A tree fails to build exactly
with the first failure met among its nodes, children before parents and left to right. -/
theorem build_eq_error_iff : ∀ (frame : Nat) (s : Surface) (e : ParseError),
    build source sub frame s = .error e ↔ s.firstFailure? source sub frame = some e
  | frame, .number t, e => by
    rw [firstFailure?_of_nodes rfl]
    simp only [build, nodeFailure?, stackFailure?, ruleFailure?, numberReach]
    cases number t with
    | ok v => exact leaf_eq_error_iff (by simp) e
    | error e' => exact leaf_eq_error_iff (by simp) e
  | frame, .string b, e => by
    rw [firstFailure?_of_nodes rfl]
    exact leaf_ok_eq_error_iff e
  | frame, .template b, e => by
    rw [firstFailure?_of_nodes rfl]
    exact leaf_eq_error_iff (templateBuilt_eq_error_iff b frame) e
  | frame, .constant v, e => by
    rw [firstFailure?_of_nodes rfl]
    exact leaf_ok_eq_error_iff e
  | frame, .name n, e => by
    rw [firstFailure?_of_nodes rfl]
    exact leaf_ok_eq_error_iff e
  | frame, .call n [], e => by
    rw [firstFailure?_of_nodes (by simp [Surface.nodes, Surface.nodesList])]
    by_cases hif : n = Text.ofString "if"
    · simp only [build, nodeFailure?, stackFailure?, ruleFailure?, callReach, hif, ne_eq,
        not_true_eq_false, false_and, if_true, if_false, List.length_nil]
      exact leaf_eq_error_iff (by simp) e
    · cases hf : Builtin.ofName? n with
      | some f =>
        simp only [build, nodeFailure?, stackFailure?, ruleFailure?, callReach, hif, hf, ne_eq,
          not_false_eq_true, reduceCtorEq, and_false, if_false, Option.isSome_some, if_true]
        exact leaf_eq_error_iff (by simp) e
      | none =>
        simp only [build, nodeFailure?, stackFailure?, ruleFailure?, callReach, hif, hf, ne_eq,
          not_false_eq_true, and_self, if_false, Option.isSome_none, if_true]
        exact leaf_eq_error_iff (by simp) e
  | frame, .array [], e => by
    rw [firstFailure?_of_nodes (by simp [Surface.nodes, Surface.nodesList])]
    exact leaf_ok_eq_error_iff e
  | frame, .object [], e => by
    rw [firstFailure?_of_nodes (by simp [Surface.nodes, Surface.nodesPairs])]
    exact leaf_ok_eq_error_iff e
  | frame, .member t n, e => by
    rw [firstFailure?_of_children rfl rfl]
    simp only [build, map_eq_error]
    exact build_eq_error_iff (frame + 2) t e
  | frame, .not t, e => by
    rw [firstFailure?_of_children rfl rfl]
    simp only [build, map_eq_error]
    exact build_eq_error_iff (frame + 2) t e
  | frame, .negate t, e => by
    rw [firstFailure?_of_children rfl rfl]
    simp only [build, map_eq_error]
    exact build_eq_error_iff (frame + 2) t e
  | frame, .plus t, e => by
    rw [firstFailure?_of_children rfl rfl]
    simp only [build, map_eq_error]
    exact build_eq_error_iff (frame + 2) t e
  | frame, .index l r, e | frame, .and l r, e | frame, .or l r, e | frame, .binary _ l r, e => by
    rw [firstFailure?_of_children rfl rfl, List.findSome?_append]
    exact bind_eq_error_iff_or (build_eq_error_iff (frame + 2) l)
      (fun _ _ e => bind_pure_eq_error.trans (build_eq_error_iff (frame + 2) r e)) e
  | frame, .call n (a :: as), e => by
    rw [firstFailure?_of_parent rfl]
    have hnode : nodeFailure? source sub frame (.call n (a :: as)) =
        ruleFailure? source sub frame (.call n (a :: as)) := by
      rw [nodeFailure?, show stackFailure? frame (.call n (a :: as)) = none from rfl,
        Option.map_none, Option.none_or]
    rw [hnode]
    refine bind_eq_error_iff_or (buildList_eq_error_iff (frame + 4) (a :: as))
      (fun args hargs e => ?_) e
    rw [ruleFailure?, ← length_of_buildList_ok hargs]
    by_cases hif : n = Text.ofString "if"
    · simp only [hif, if_true]
      rcases args with _ | ⟨c, _ | ⟨a, _ | ⟨b, _ | ⟨d, rest⟩⟩⟩⟩ <;>
        simp [pure, Except.pure, eq_comm]
    · simp only [hif, if_false]
      cases Builtin.ofName? n <;> simp [pure, Except.pure, eq_comm]
  | frame, .array (a :: as), e => by
    rw [firstFailure?_of_children rfl rfl]
    simp only [build, map_eq_error]
    exact buildList_eq_error_iff (frame + 4) (a :: as) e
  | frame, .object (p :: ps), e => by
    rw [firstFailure?_of_children rfl rfl]
    simp only [build, map_eq_error]
    exact buildPairs_eq_error_iff (frame + 6) (p :: ps) e

theorem buildList_eq_error_iff : ∀ (frame : Nat) (ss : List Surface) (e : ParseError),
    buildList source sub frame ss = .error e ↔
      (Surface.nodesList frame ss).findSome? (fun p => nodeFailure? source sub p.1 p.2) = some e
  | _, [], e => by simp [buildList, Surface.nodesList]
  | frame, s :: ss, e => by
    simp only [buildList, Surface.nodesList, List.findSome?_append]
    exact bind_eq_error_iff_or (build_eq_error_iff frame s)
      (fun _ _ e => bind_pure_eq_error.trans (buildList_eq_error_iff frame ss e)) e

theorem buildPairs_eq_error_iff :
    ∀ (frame : Nat) (ps : List (SurfaceKey × Surface)) (e : ParseError),
      buildPairs source sub frame ps = .error e ↔
        (Surface.nodesPairs frame ps).findSome? (fun p => nodeFailure? source sub p.1 p.2) = some e
  | _, [], e => by simp [buildPairs, Surface.nodesPairs]
  | frame, (k, s) :: ps, e => by
    simp only [buildPairs, Surface.nodesPairs, List.findSome?_append]
    exact bind_eq_error_iff_or (build_eq_error_iff frame s)
      (fun _ _ e => bind_pure_eq_error.trans (buildPairs_eq_error_iff frame ps e)) e

end

end Build

/-! ## Placeholders parsed alike -/

section Congr

variable {source : Text} {sub sub' : Nat → Text → Except ParseError Expr}

theorem firstParseFailure_congr {f g : Text → Except ParseError Expr} {ps : List Text}
    (h : ∀ p ∈ ps, f p = g p) : firstParseFailure f ps = firstParseFailure g ps := by
  induction ps with
  | nil => rfl
  | cons p ps ih =>
    simp only [firstParseFailure, h p (List.mem_cons_self ..),
      ih fun q hq => h q (List.mem_cons_of_mem _ hq)]

theorem nodeFailure?_congr {frame : Nat} {s : Surface}
    (h : ∀ b, s = .template b → ∀ p ∈ (openings b).1, ∀ d, sub d p = sub' d p) :
    nodeFailure? source sub frame s = nodeFailure? source sub' frame s := by
  cases s with
  | template b =>
    simp only [nodeFailure?, ruleFailure?, partsFailure?,
      firstParseFailure_congr fun p hp => h b rfl p hp (frame + 7)]
  | _ => rfl

end Congr

end Expr

namespace Surface

mutual

theorem template_mem_literals : ∀ (s : Surface) (frame f : Nat) (b : Text),
    (f, Surface.template b) ∈ s.nodes frame → Token.template b ∈ s.literals
  | .number _, _, _, _, h | .string _, _, _, _, h | .constant _, _, _, _, h
  | .name _, _, _, _, h => by simp [nodes] at h
  | .template _, _, _, _, h => by simp_all [nodes, literals]
  | .member t _, frame, f, b, h | .not t, frame, f, b, h | .negate t, frame, f, b, h
  | .plus t, frame, f, b, h => by
    simp only [nodes, List.mem_append, List.mem_singleton, Prod.mk.injEq, reduceCtorEq,
      and_false, or_false] at h
    exact template_mem_literals t (frame + 2) f b h
  | .index l r, frame, f, b, h | .and l r, frame, f, b, h | .or l r, frame, f, b, h
  | .binary _ l r, frame, f, b, h => by
    simp only [nodes, List.mem_append, List.mem_singleton, Prod.mk.injEq, reduceCtorEq,
      and_false, or_false] at h
    simp only [literals, List.mem_append]
    exact h.imp (template_mem_literals l (frame + 2) f b) (template_mem_literals r (frame + 2) f b)
  | .call _ items, frame, f, b, h | .array items, frame, f, b, h => by
    simp only [nodes, List.mem_append, List.mem_singleton, Prod.mk.injEq, reduceCtorEq,
      and_false, or_false] at h
    exact template_mem_literalsList items (frame + 4) f b h
  | .object ps, frame, f, b, h => by
    simp only [nodes, List.mem_append, List.mem_singleton, Prod.mk.injEq, reduceCtorEq,
      and_false, or_false] at h
    exact template_mem_literalsPairs ps (frame + 6) f b h

theorem template_mem_literalsList : ∀ (ss : List Surface) (frame f : Nat) (b : Text),
    (f, Surface.template b) ∈ nodesList frame ss → Token.template b ∈ literalsList ss
  | [], _, _, _, h => by simp [nodesList] at h
  | s :: ss, frame, f, b, h => by
    simp only [nodesList, literalsList, List.mem_append] at h ⊢
    exact h.imp (template_mem_literals s frame f b) (template_mem_literalsList ss frame f b)

theorem template_mem_literalsPairs :
    ∀ (ps : List (SurfaceKey × Surface)) (frame f : Nat) (b : Text),
      (f, Surface.template b) ∈ nodesPairs frame ps → Token.template b ∈ literalsPairs ps
  | [], _, _, _, h => by simp [nodesPairs] at h
  | (_, s) :: ps, frame, f, b, h => by
    simp only [nodesPairs, literalsPairs, List.mem_append] at h ⊢
    exact h.imp (template_mem_literals s frame f b) (template_mem_literalsPairs ps frame f b)

end

theorem firstFailure?_congr {s : Surface} {source : Text}
    {sub sub' : Nat → Text → Except ParseError Expr} {frame : Nat}
    (h : ∀ b, Token.template b ∈ s.literals → ∀ p ∈ (Expr.openings b).1, ∀ d,
      sub d p = sub' d p) :
    s.firstFailure? source sub frame = s.firstFailure? source sub' frame := by
  have hnodes : ∀ q ∈ s.nodes frame, Expr.nodeFailure? source sub q.1 q.2 =
      Expr.nodeFailure? source sub' q.1 q.2 := fun q hq =>
    Expr.nodeFailure?_congr fun b hb => h b (template_mem_literals s frame q.1 b (hb ▸ hq))
  exact findSome?_congr hnodes

end Surface

namespace Expr

/-! ## The failure a parse reports -/

section Parse

variable {depth : Nat} {source : Text}

theorem parse_of_blank (hb : Text.isAllBlank source = true) :
    parse depth source = .error (.empty source) := by
  rw [parse, if_pos hb]

theorem parse_of_no_room (hb : Text.isAllBlank source = false)
    (hroom : Stack.limit < depth + scanFrames) :
    parse depth source = .error (.abort (.stack [])) := by
  rw [parse, if_neg (by simp [hb]), if_pos hroom]

theorem parse_of_no_sentence (hb : Text.isAllBlank source = false)
    (hroom : depth + scanFrames ≤ Stack.limit)
    (hnone : (Token.scan source).bind Surface.parse? = none) :
    parse depth source = .error (.malformed source) := by
  rw [parse, if_neg (by simp [hb]), if_neg (by omega), hnone]

/-- The placeholders of a sentence's templates are shorter than the text, so parsing them
only when shorter changes nothing. -/
theorem firstFailure?_parseShorter {ts : List Token} {s : Surface} {frame : Nat}
    (hts : Token.scan source = some ts) (hs : Grammar.Sentence ts s) :
    s.firstFailure? source (parseShorter source) frame = s.firstFailure? source parse frame :=
  Surface.firstFailure?_congr fun b hb p hp d => by
    have hbody := Token.length_lt_of_template_mem hts (hs.literals_subset _ hb)
    have hpart := length_lt_of_mem_openings hp
    rw [parseShorter, if_pos (by omega)]

/-- Text that is not blank, with room to be read, and whose tokens are a sentence fails as
the sentence's tree first fails, three frames below the parse, its placeholders parsed as
texts of their own. -/
theorem parse_eq_error_iff_of_sentence {ts : List Token} {s : Surface}
    (hb : Text.isAllBlank source = false) (hroom : depth + scanFrames ≤ Stack.limit)
    (hts : Token.scan source = some ts) (hs : Grammar.Sentence ts s) (e : ParseError) :
    parse depth source = .error e ↔ s.firstFailure? source parse (depth + 3) = some e := by
  rw [parse_eq_build hb hroom hts hs, build_eq_error_iff, firstFailure?_parseShorter hts hs]

end Parse

/-- **Which failure a parse reports.** A text fails to parse as empty when it is blank;
else for want of stack when the reader has too few frames; else as malformed when its tokens
are no sentence of the grammar, whatever else is wrong with it; and else with the first
failure met in the post-order traversal of the sentence's tree, three frames below the
parse: a leaf built past the stack's limit, `if` without three arguments, a call of a name
that is no builtin, an integer literal past the digit limit, or a template's first
placeholder that fails to parse (with that placeholder's own failure, the one reported for
its own text), else its first unclosed `${`. -/
theorem parse_eq_error_iff (depth : Nat) (source : Text) (e : ParseError) :
    parse depth source = .error e ↔
      (Text.isAllBlank source = true ∧ e = .empty source) ∨
      (Text.isAllBlank source = false ∧ Stack.limit < depth + scanFrames ∧
        e = .abort (.stack [])) ∨
      (Text.isAllBlank source = false ∧ depth + scanFrames ≤ Stack.limit ∧
        (∀ ts s, Token.scan source = some ts → ¬ Grammar.Sentence ts s) ∧
        e = .malformed source) ∨
      (Text.isAllBlank source = false ∧ depth + scanFrames ≤ Stack.limit ∧
        ∃ ts s, Token.scan source = some ts ∧ Grammar.Sentence ts s ∧
          s.firstFailure? source parse (depth + 3) = some e) := by
  cases hb : Text.isAllBlank source
  case true =>
    rw [parse_of_blank hb]
    simp only [Except.error.injEq, true_and, Bool.true_eq_false, false_and, or_false]
    exact eq_comm
  case false =>
    by_cases hroom : Stack.limit < depth + scanFrames
    · rw [parse_of_no_room hb hroom]
      have hnot : ¬ depth + scanFrames ≤ Stack.limit := by omega
      simp only [Except.error.injEq, hroom, hnot, Bool.false_eq_true, false_and, true_and,
        false_or, or_false]
      exact eq_comm
    have hroom' : depth + scanFrames ≤ Stack.limit := by omega
    cases hp : (Token.scan source).bind Surface.parse? with
    | none =>
      have hno : ∀ ts s, Token.scan source = some ts → ¬ Grammar.Sentence ts s := by
        intro ts s hts hs
        rw [hts, Option.bind_some, Surface.parse?_of_sentence hs] at hp
        cases hp
      rw [parse_of_no_sentence hb hroom' hp]
      constructor
      · rintro ⟨⟩
        exact .inr (.inr (.inl ⟨rfl, hroom', hno, rfl⟩))
      · rintro (⟨h, -⟩ | ⟨-, h, -⟩ | ⟨-, -, -, rfl⟩ | ⟨-, -, ts, s, hts, hs, -⟩)
        · cases h
        · omega
        · rfl
        · exact absurd hs (hno ts s hts)
    | some s =>
      obtain ⟨ts, hts, hps⟩ := Option.bind_eq_some_iff.1 hp
      have hs := Surface.sentence_of_parse? hps
      rw [parse_eq_error_iff_of_sentence hb hroom' hts hs]
      constructor
      · intro h
        exact .inr (.inr (.inr ⟨rfl, hroom', ts, s, hts, hs, h⟩))
      · rintro (⟨h, -⟩ | ⟨-, h, -⟩ | ⟨-, -, hno, -⟩ | ⟨-, -, ts', s', hts', hs', h⟩)
        · cases h
        · omega
        · exact absurd hs (hno ts s hts)
        · obtain rfl : ts' = ts := Option.some.inj (hts'.symm.trans hts)
          rwa [Grammar.Sentence.unique hs' hs] at h

set_option maxRecDepth 2000 in
/-- Six hundred minus signs before `1 + nope()`: the left operand passes every check and
the right one calls a name that is no builtin, which its rule refuses; yet the parse does
not report the unknown function. The left operand is built first, and its innermost leaf
would be built past the stack's limit. -/
theorem parse_deep_left_operand :
    Text.isAllBlank (List.replicate 600 0x2D ++ [0x31, 0x2B, 0x6E, 0x6F, 0x70, 0x65, 0x28, 0x29])
      = false ∧
    Token.scan (List.replicate 600 0x2D ++ [0x31, 0x2B, 0x6E, 0x6F, 0x70, 0x65, 0x28, 0x29]) =
      some ((List.replicate 600 (.sym .minus) ++ [.number [0x31]]) ++
        .sym .plus :: [.name [0x6E, 0x6F, 0x70, 0x65], .sym .lparen, .sym .rparen]) ∧
    Grammar.Sentence ((List.replicate 600 (.sym .minus) ++ [.number [0x31]]) ++
        .sym .plus :: [.name [0x6E, 0x6F, 0x70, 0x65], .sym .lparen, .sym .rparen])
      (.binary .add (Surface.negate^[600] (.number [0x31])) (.call [0x6E, 0x6F, 0x70, 0x65] [])) ∧
    (Surface.negate^[600] (.number [0x31])).Checks LiteralFits parse 12 ∧
    ruleFailure? (List.replicate 600 0x2D ++ [0x31, 0x2B, 0x6E, 0x6F, 0x70, 0x65, 0x28, 0x29])
        parse 12 (.call [0x6E, 0x6F, 0x70, 0x65] []) =
      some (.unknownFunction
        (List.replicate 600 0x2D ++ [0x31, 0x2B, 0x6E, 0x6F, 0x70, 0x65, 0x28, 0x29])
        [0x6E, 0x6F, 0x70, 0x65]) ∧
    parse 7 (List.replicate 600 0x2D ++ [0x31, 0x2B, 0x6E, 0x6F, 0x70, 0x65, 0x28, 0x29]) =
      .error (.abort (.stack [])) := by
  have hb : Text.isAllBlank
      (List.replicate 600 0x2D ++ [0x31, 0x2B, 0x6E, 0x6F, 0x70, 0x65, 0x28, 0x29]) = false := by
    decide +kernel
  have hts : Token.scan
      (List.replicate 600 0x2D ++ [0x31, 0x2B, 0x6E, 0x6F, 0x70, 0x65, 0x28, 0x29]) =
      some ((List.replicate 600 (.sym .minus) ++ [.number [0x31]]) ++
        .sym .plus :: [.name [0x6E, 0x6F, 0x70, 0x65], .sym .lparen, .sym .rparen]) := by
    decide +kernel
  have hkw : ¬ Grammar.IsKeyword [0x6E, 0x6F, 0x70, 0x65] := by
    unfold Grammar.IsKeyword Grammar.keywords
    decide +kernel
  have hl : Grammar.Derives (.tier .sum) (List.replicate 600 (.sym .minus) ++ [.number [0x31]])
      (Surface.negate^[600] (.number [0x31])) :=
    .down (by decide) (.down (by decide) (.down (by decide)
      (Grammar.derives_negations 600 (Grammar.derives_unary_number [0x31]))))
  have hr : Grammar.Derives (.tier .product)
      [.name [0x6E, 0x6F, 0x70, 0x65], .sym .lparen, .sym .rparen]
      (.call [0x6E, 0x6F, 0x70, 0x65] []) :=
    .down (by decide) (.down (by decide) (.down (by decide) (.callEmpty hkw)))
  have hs : Grammar.Sentence ((List.replicate 600 (.sym .minus) ++ [.number [0x31]]) ++
      .sym .plus :: [.name [0x6E, 0x6F, 0x70, 0x65], .sym .lparen, .sym .rparen])
      (.binary .add (Surface.negate^[600] (.number [0x31])) (.call [0x6E, 0x6F, 0x70, 0x65] [])) :=
    .down (by decide) (.down (by decide) (.down (by decide) (.operator rfl hl hr)))
  have hchecks : (Surface.negate^[600] (.number [0x31])).Checks LiteralFits parse 12 := by
    rw [Surface.checks_negations]
    exact Or.inr (by decide)
  have hrule : ruleFailure?
      (List.replicate 600 0x2D ++ [0x31, 0x2B, 0x6E, 0x6F, 0x70, 0x65, 0x28, 0x29])
      parse 12 (.call [0x6E, 0x6F, 0x70, 0x65] []) =
      some (.unknownFunction
        (List.replicate 600 0x2D ++ [0x31, 0x2B, 0x6E, 0x6F, 0x70, 0x65, 0x28, 0x29])
        [0x6E, 0x6F, 0x70, 0x65]) := by
    decide +kernel
  -- the left operand's innermost leaf lies 1,212 frames down
  have hleft : build (List.replicate 600 0x2D ++ [0x31, 0x2B, 0x6E, 0x6F, 0x70, 0x65, 0x28, 0x29])
      (parseShorter
        (List.replicate 600 0x2D ++ [0x31, 0x2B, 0x6E, 0x6F, 0x70, 0x65, 0x28, 0x29]))
      12 (Surface.negate^[600] (.number [0x31])) = .error (.abort (.stack [])) := by
    apply build_negations_error 600 12
    simp only [build]
    split <;> exact leaf_past_limit (by decide)
  have hparse : parse 7
      (List.replicate 600 0x2D ++ [0x31, 0x2B, 0x6E, 0x6F, 0x70, 0x65, 0x28, 0x29]) =
      .error (.abort (.stack [])) := by
    rw [parse_eq_build hb (by decide) hts hs]
    simp only [build, hleft]
    rfl
  exact ⟨hb, hts, hs, hchecks, hrule, hparse⟩

end Expr

end Templating
