import Templating.Expr.Surface
/-!
# The grammar of expressions

The grammar of expression text, as a relation between token lists and concrete trees
(`Grammar.Derives`), rule for rule:

    or         := and | or "||" and
    and        := comparison | and "&&" comparison
    comparison := sum | comparison ("==" | "!=" | "<" | "<=" | ">" | ">=") sum
    sum        := product | sum ("+" | "-") product
    product    := power | product ("*" | "/" | "%") power
    power      := unary | unary "^" power
    unary      := primary | ("!" | "-" | "+") unary
    primary    := atom | primary "." NAME | primary "[" or "]" | NAME "(" [arguments] ")"
    atom       := NUMBER | STRING | TEMPLATE | "true" | "false" | "null" | NAME
                | "(" or ")" | "[" [arguments] "]" | "{" [pairs] "}"
    arguments  := or ("," or)*
    pairs      := (NAME | STRING) ":" or ("," (NAME | STRING) ":" or)*

A sentence is derived from `or`. The infix tiers are left-recursive, so their operators
associate to the left; `^` is right-recursive, with a unary operand on its left. Where an
atom or a call stands, `true`, `false` and `null` are keywords, never names; after a dot
and as keys they are names.

The parser (`Surface.parse?`) descends the tiers, with a loop for each left-recursive
one, and decides each step by the next token. It finds exactly the derivations of the
grammar (`Surface.parse?_eq_some_iff`): what it returns is derived (soundness, by
induction on the fuel), and every derivation is found with the fuel the parser is given
(completeness, by induction on the derivation). So a token list has at most one
derivation (`Grammar.Sentence.unique`).

Main statements:

    parse? ts = some s ↔ Sentence ts s                          (Surface.parse?_eq_some_iff)
-/

namespace Templating

namespace Grammar

/-! ## The grammar -/

/-- The tiers of the grammar, from the loosest. -/
inductive Tier where
  | or | and | comparison | sum | product | power | unary | primary | atom
deriving DecidableEq

/-- The nonterminals: a tier, the arguments of a call or items of an array, or the
entries of an object. -/
inductive Rule where
  | tier (t : Tier)
  | arguments
  | pairs

/-- What a nonterminal derives: a tree, a list of trees, or keyed trees. -/
abbrev Rule.Tree : Rule → Type
  | .tier _ => Surface
  | .arguments => List Surface
  | .pairs => List (SurfaceKey × Surface)

namespace Tier

/-- The next tighter tier: the operands of an infix tier, and what a tier derives when it
uses no operator of its own. -/
def operand : Tier → Tier
  | .or => .and
  | .and => .comparison
  | .comparison => .sum
  | .sum => .product
  | .product => .power
  | .power => .unary
  | .unary => .primary
  | .primary => .atom
  | .atom => .atom

/-- The infix operators of each tier, as the grammar lists them. -/
def operator? : Tier → Token → Option (Surface → Surface → Surface)
  | .or, .sym .orOr => some .or
  | .and, .sym .andAnd => some .and
  | .comparison, .sym .eqEq => some (.binary .eq)
  | .comparison, .sym .bangEq => some (.binary .ne)
  | .comparison, .sym .lt => some (.binary .lt)
  | .comparison, .sym .le => some (.binary .le)
  | .comparison, .sym .gt => some (.binary .gt)
  | .comparison, .sym .ge => some (.binary .ge)
  | .sum, .sym .plus => some (.binary .add)
  | .sum, .sym .minus => some (.binary .sub)
  | .product, .sym .star => some (.binary .mul)
  | .product, .sym .slash => some (.binary .div)
  | .product, .sym .percent => some (.binary .mod)
  | _, _ => none

/-- The tiers of left-associative infix operators. -/
def isChain : Tier → Bool
  | .or | .and | .comparison | .sum | .product => true
  | _ => false

end Tier

/-- The unary prefix operators. -/
def unaryOp? : Token → Option (Surface → Surface)
  | .sym .bang => some .not
  | .sym .minus => some .negate
  | .sym .plus => some .plus
  | _ => none

/-- The keywords, with the constants they stand for where an atom stands. -/
def keywords : List (Text × Value) :=
  [(Text.ofString "true", .bool true), (Text.ofString "false", .bool false),
   (Text.ofString "null", .null)]

/-- Whether a name is a keyword. -/
def IsKeyword (n : Text) : Prop := n ∈ keywords.map Prod.fst

/-- The token of an object key. -/
def keyToken : SurfaceKey → Token
  | .name n => .name n
  | .string b => .string b

/-- `Derives r ts x`: the tokens `ts` are derived from the nonterminal `r`, with the
tree `x`. -/
inductive Derives : (r : Rule) → List Token → r.Tree → Prop where
  /-- A tier derives what the next tighter one does. -/
  | down {t : Tier} {ts : List Token} {e : Surface} :
      t ≠ .atom → Derives (.tier t.operand) ts e → Derives (.tier t) ts e
  /-- An infix operator, its left operand of its own tier. -/
  | operator {t : Tier} {tok : Token} {c : Surface → Surface → Surface} {ts us : List Token}
      {l r : Surface} :
      t.operator? tok = some c → Derives (.tier t) ts l → Derives (.tier t.operand) us r →
      Derives (.tier t) (ts ++ tok :: us) (c l r)
  /-- `^`, its right operand of its own tier. -/
  | power {ts us : List Token} {l r : Surface} :
      Derives (.tier .unary) ts l → Derives (.tier .power) us r →
      Derives (.tier .power) (ts ++ .sym .caret :: us) (.binary .pow l r)
  | unaryOp {tok : Token} {c : Surface → Surface} {ts : List Token} {e : Surface} :
      unaryOp? tok = some c → Derives (.tier .unary) ts e → Derives (.tier .unary) (tok :: ts) (c e)
  | member {ts : List Token} {t : Surface} {n : Text} :
      Derives (.tier .primary) ts t →
      Derives (.tier .primary) (ts ++ [Token.sym .dot, .name n]) (.member t n)
  | index {ts us : List Token} {t k : Surface} :
      Derives (.tier .primary) ts t → Derives (.tier .or) us k →
      Derives (.tier .primary) (ts ++ .sym .lbracket :: us ++ [Token.sym .rbracket]) (.index t k)
  | callEmpty {n : Text} :
      ¬ IsKeyword n → Derives (.tier .primary) [.name n, .sym .lparen, .sym .rparen] (.call n [])
  | call {n : Text} {ts : List Token} {args : List Surface} :
      ¬ IsKeyword n → Derives .arguments ts args →
      Derives (.tier .primary) (.name n :: .sym .lparen :: ts ++ [Token.sym .rparen]) (.call n args)
  | number {t : Text} : Derives (.tier .atom) [.number t] (.number t)
  | string {b : Text} : Derives (.tier .atom) [.string b] (.string b)
  | template {b : Text} : Derives (.tier .atom) [.template b] (.template b)
  | constant {n : Text} {v : Value} :
      (n, v) ∈ keywords → Derives (.tier .atom) [.name n] (.constant v)
  | var {n : Text} : ¬ IsKeyword n → Derives (.tier .atom) [.name n] (.name n)
  | paren {ts : List Token} {e : Surface} :
      Derives (.tier .or) ts e → Derives (.tier .atom) (.sym .lparen :: ts ++ [Token.sym .rparen]) e
  | arrayEmpty : Derives (.tier .atom) [Token.sym .lbracket, .sym .rbracket] (.array [])
  | array {ts : List Token} {items : List Surface} :
      Derives .arguments ts items →
      Derives (.tier .atom) (.sym .lbracket :: ts ++ [Token.sym .rbracket]) (.array items)
  | objectEmpty : Derives (.tier .atom) [Token.sym .lbrace, .sym .rbrace] (.object [])
  | object {ts : List Token} {ps : List (SurfaceKey × Surface)} :
      Derives .pairs ts ps →
      Derives (.tier .atom) (.sym .lbrace :: ts ++ [Token.sym .rbrace]) (.object ps)
  | argument {ts : List Token} {e : Surface} :
      Derives (.tier .or) ts e → Derives .arguments ts [e]
  | arguments {ts us : List Token} {e : Surface} {es : List Surface} :
      Derives (.tier .or) ts e → Derives .arguments us es →
      Derives .arguments (ts ++ .sym .comma :: us) (e :: es)
  | pair {k : SurfaceKey} {ts : List Token} {e : Surface} :
      Derives (.tier .or) ts e → Derives .pairs (keyToken k :: .sym .colon :: ts) [(k, e)]
  | pairs {k : SurfaceKey} {ts us : List Token} {e : Surface} {ps : List (SurfaceKey × Surface)} :
      Derives (.tier .or) ts e → Derives .pairs us ps →
      Derives .pairs (keyToken k :: .sym .colon :: ts ++ .sym .comma :: us) ((k, e) :: ps)

/-- A sentence: tokens derived from the loosest tier, with their tree. -/
def Sentence (ts : List Token) (s : Surface) : Prop := Derives (.tier .or) ts s

theorem Derives.ne_nil {r : Rule} {ts : List Token} {x : r.Tree} (h : Derives r ts x) :
    ts ≠ [] := by
  induction h <;> simp_all

end Grammar

/-! ## Equations of the parser -/

namespace Surface

theorem unary_succ_nil (f : Nat) : unary (f + 1) [] = primary f [] := rfl

theorem unary_succ_op {f : Nat} {tok : Token} {c : Surface → Surface}
    (hc : Grammar.unaryOp? tok = some c) (us : List Token) :
    unary (f + 1) (tok :: us) = (unary f us).bind fun p => some (c p.1, p.2) := by
  cases tok with
  | sym s =>
    cases s <;> simp only [Grammar.unaryOp?, reduceCtorEq, Option.some.injEq] at hc
    all_goals
      subst hc
      rfl
  | name _ | number _ | string _ | template _ => simp [Grammar.unaryOp?] at hc

theorem unary_succ_primary {f : Nat} {tok : Token} (hc : Grammar.unaryOp? tok = none)
    (us : List Token) : unary (f + 1) (tok :: us) = primary f (tok :: us) := by
  rw [unary] <;> rintro _ ⟨⟩ <;> simp [Grammar.unaryOp?] at hc

theorem primary_succ_call (f : Nat) (n : Text) (us : List Token) :
    primary (f + 1) (.name n :: .sym .lparen :: us) =
      if (keyword? n).isSome then none
      else (argsUntil f .rparen us).bind fun p => trailers f (.call n p.1) p.2 := rfl

theorem primary_succ_atom {f : Nat} {ts : List Token}
    (h : ∀ n us, ts ≠ .name n :: .sym .lparen :: us) :
    primary (f + 1) ts = (atom f ts).bind fun p => trailers f p.1 p.2 := by
  rw [primary]
  · rfl
  · simpa using h

theorem keyword?_eq_some_iff {n : Text} {v : Value} :
    keyword? n = some v ↔ (n, v) ∈ Grammar.keywords := by
  have h1 : Text.ofString "true" ≠ Text.ofString "false" := by decide
  have h2 : Text.ofString "true" ≠ Text.ofString "null" := by decide
  have h3 : Text.ofString "false" ≠ Text.ofString "null" := by decide
  by_cases ht : n = Text.ofString "true"
  · subst ht
    simpa [keyword?, Grammar.keywords, h1, h2] using eq_comm
  by_cases hf : n = Text.ofString "false"
  · subst hf
    simpa [keyword?, Grammar.keywords, h1.symm, h3] using eq_comm
  by_cases hn : n = Text.ofString "null"
  · subst hn
    simpa [keyword?, Grammar.keywords, h2.symm, h3.symm] using eq_comm
  simp [keyword?, Grammar.keywords, ht, hf, hn]

theorem not_isKeyword_of_keyword? {n : Text} (h : keyword? n = none) :
    ¬ Grammar.IsKeyword n := by
  intro hk
  obtain ⟨⟨n', v⟩, hm, rfl⟩ := List.mem_map.1 hk
  simp [keyword?_eq_some_iff.2 hm] at h

theorem power_succ_stop {f : Nat} {ts : List Token} {e : Surface} {rest : List Token}
    (hu : unary f ts = some (e, rest)) (hs : ∀ vs, rest ≠ .sym .caret :: vs) :
    power (f + 1) ts = some (e, rest) := by
  simp only [power, Option.bind_eq_bind, hu, Option.bind_some]
  rfl

theorem power_succ_caret {f : Nat} {ts vs : List Token} {l : Surface}
    (hu : unary f ts = some (l, .sym .caret :: vs)) :
    power (f + 1) ts = (power f vs).bind fun p => some (.binary .pow l p.1, p.2) := by
  simp only [power, Option.bind_eq_bind, hu, Option.bind_some]
  rfl

theorem trailers_succ_index {f : Nat} {t k : Surface} {ts vs : List Token}
    (hk : expr f ts = some (k, .sym .rbracket :: vs)) :
    trailers (f + 1) t (.sym .lbracket :: ts) = trailers f (.index t k) vs := by
  simp only [trailers, Option.bind_eq_bind, hk, Option.bind_some]

theorem atom_succ_paren {f : Nat} {e : Surface} {ts vs : List Token}
    (he : expr f ts = some (e, .sym .rparen :: vs)) :
    atom (f + 1) (.sym .lparen :: ts) = some (e, vs) := by
  simp only [atom, Option.bind_eq_bind, he, Option.bind_some]

theorem atom_succ_array (f : Nat) (ts : List Token) :
    atom (f + 1) (.sym .lbracket :: ts) =
      (argsUntil f .rbracket ts).bind fun p => some (.array p.1, p.2) := rfl

theorem atom_succ_object {f : Nat} {ts : List Token} (h : ∀ vs, ts ≠ .sym .rbrace :: vs) :
    atom (f + 1) (.sym .lbrace :: ts) =
      (pairs f [] ts).bind fun p => some (.object p.1, p.2) := by
  simp only [atom]
  rfl

theorem argsUntil_succ_close (f : Nat) (close : Symbol) (vs : List Token) :
    argsUntil (f + 1) close (.sym close :: vs) = some ([], vs) := by
  simp [argsUntil]

theorem argsUntil_succ_more {f : Nat} {close : Symbol} {ts : List Token}
    (h : ∀ vs, ts ≠ .sym close :: vs) : argsUntil (f + 1) close ts = argsMore f close [] ts := by
  simp only [argsUntil]
  split
  · split
    · simp_all
    · rfl
  · rfl

theorem argsMore_succ_comma {f : Nat} {close : Symbol} {acc : List Surface} {e : Surface}
    {ts vs : List Token} (he : expr f ts = some (e, .sym .comma :: vs)) :
    argsMore (f + 1) close acc ts = argsMore f close (e :: acc) vs := by
  simp only [argsMore, Option.bind_eq_bind, he, Option.bind_some]

theorem argsMore_succ_close {f : Nat} {close : Symbol} {acc : List Surface} {e : Surface}
    {ts vs : List Token} (he : expr f ts = some (e, .sym close :: vs)) (hc : close ≠ .comma) :
    argsMore (f + 1) close acc ts = some ((e :: acc).reverse, vs) := by
  simp only [argsMore, Option.bind_eq_bind, he, Option.bind_some]
  split <;> simp_all

theorem pairs_succ_comma {f : Nat} {acc : List (SurfaceKey × Surface)} {k : SurfaceKey}
    {e : Surface} {ts vs : List Token} (he : expr f ts = some (e, .sym .comma :: vs)) :
    pairs (f + 1) acc (Grammar.keyToken k :: .sym .colon :: ts) = pairs f ((k, e) :: acc) vs := by
  cases k <;> simp only [pairs, Grammar.keyToken, Option.bind_eq_bind, he, Option.bind_some]

theorem pairs_succ_close {f : Nat} {acc : List (SurfaceKey × Surface)} {k : SurfaceKey}
    {e : Surface} {ts vs : List Token} (he : expr f ts = some (e, .sym .rbrace :: vs)) :
    pairs (f + 1) acc (Grammar.keyToken k :: .sym .colon :: ts) =
      some (((k, e) :: acc).reverse, vs) := by
  cases k <;> simp only [pairs, Grammar.keyToken, Option.bind_eq_bind, he, Option.bind_some]

theorem keyword?_eq_none {n : Text} (h : ¬ Grammar.IsKeyword n) : keyword? n = none := by
  cases hk : keyword? n with
  | none => rfl
  | some v => exact absurd (List.mem_map_of_mem (f := Prod.fst) (keyword?_eq_some_iff.1 hk)) h

end Surface

namespace Grammar

/-! ## The parser, tier by tier -/

namespace Tier

/-- The parsing function of a tier. -/
def parse : Tier → Nat → List Token → Surface.Result
  | .or => Surface.expr
  | .and => Surface.conj
  | .comparison => Surface.comparison
  | .sum => Surface.sum
  | .product => Surface.product
  | .power => Surface.power
  | .unary => Surface.unary
  | .primary => Surface.primary
  | .atom => Surface.atom

/-- The loop that follows the first operand of a tier: the loop of an infix tier, or the
trailers of a primary. The other tiers have none, and stop at once. -/
def loop : Tier → Nat → Surface → List Token → Surface.Result
  | .or => Surface.exprRest
  | .and => Surface.conjRest
  | .comparison => Surface.comparisonRest
  | .sum => Surface.sumRest
  | .product => Surface.productRest
  | .primary => Surface.trailers
  | _ => fun _ l ts => some (l, ts)

theorem ne_atom_of_isChain {t : Tier} (ht : t.isChain = true) : t ≠ .atom := by
  cases t <;> simp_all [isChain]

theorem isChain_of_operator? {t : Tier} {tok : Token} {c : Surface → Surface → Surface}
    (h : t.operator? tok = some c) : t.isChain = true := by
  cases t <;> cases tok <;> simp_all [operator?, isChain]

end Tier

/-- One turn of the loop of an infix tier: an operator of the tier and an operand parsed
by `operand`, after which the loop goes on with `next`; any other token ends it. -/
def chainStep (t : Tier) (operand : List Token → Surface.Result)
    (next : Surface → List Token → Surface.Result) (l : Surface) : List Token → Surface.Result
  | [] => some (l, [])
  | tok :: ts =>
    match t.operator? tok with
    | some c => (operand ts).bind fun p => next (c l p.1) p.2
    | none => some (l, tok :: ts)

namespace Tier

theorem parse_succ_of_isChain {t : Tier} (ht : t.isChain = true) (f : Nat) (ts : List Token) :
    t.parse (f + 1) ts = (t.operand.parse f ts).bind fun p => t.loop f p.1 p.2 := by
  cases t <;> first | rfl | simp [isChain] at ht

theorem loop_succ_of_isChain {t : Tier} (ht : t.isChain = true) (f : Nat) (l : Surface)
    (ts : List Token) :
    t.loop (f + 1) l ts = chainStep t (t.operand.parse f) (t.loop f) l ts := by
  cases ts with
  | nil => cases t <;> rfl
  | cons tok ts =>
    -- only a symbol can be an operator: once it is known, both sides take the same branch
    cases tok with
    | sym s => cases t <;> simp only [isChain, Bool.false_eq_true] at ht <;> cases s <;> rfl
    | name _ | number _ | string _ | template _ => cases t <;> rfl

end Tier

/-! ## Soundness: what the parser returns is derived -/

/-- What the parser returns with fuel `f` is derived: a tier's tree from the tokens it
took; a loop's tree from the tokens of its first operand and those it took; a list of
arguments or entries from the tokens before its closing symbol. -/
structure Sound (f : Nat) : Prop where
  tier : ∀ (t : Tier) {ts : List Token} {e : Surface} {rest : List Token},
    t.parse f ts = some (e, rest) → ∃ pre, ts = pre ++ rest ∧ Derives (.tier t) pre e
  loop : ∀ (t : Tier) {l : Surface} {pre ts : List Token} {e : Surface} {rest : List Token},
    Derives (.tier t) pre l → t.loop f l ts = some (e, rest) →
    ∃ mid, ts = mid ++ rest ∧ Derives (.tier t) (pre ++ mid) e
  argsUntil : ∀ {close : Symbol} {ts : List Token} {es : List Surface} {rest : List Token},
    Surface.argsUntil f close ts = some (es, rest) →
    ∃ pre, ts = pre ++ .sym close :: rest ∧ (pre = [] ∧ es = [] ∨ Derives .arguments pre es)
  argsMore : ∀ {close : Symbol} {acc : List Surface} {ts : List Token} {es : List Surface}
    {rest : List Token},
    Surface.argsMore f close acc ts = some (es, rest) →
    ∃ pre items, ts = pre ++ .sym close :: rest ∧ Derives .arguments pre items ∧
      es = acc.reverse ++ items
  pairs : ∀ {acc : List (SurfaceKey × Surface)} {ts : List Token}
    {ps : List (SurfaceKey × Surface)} {rest : List Token},
    Surface.pairs f acc ts = some (ps, rest) →
    ∃ pre items, ts = pre ++ .sym .rbrace :: rest ∧ Derives .pairs pre items ∧
      ps = acc.reverse ++ items

theorem chainStep_sound {t : Tier} {operand : List Token → Surface.Result}
    {next : Surface → List Token → Surface.Result}
    (hop : ∀ {ts : List Token} {r : Surface} {rest : List Token}, operand ts = some (r, rest) →
      ∃ pre, ts = pre ++ rest ∧ Derives (.tier t.operand) pre r)
    (hnext : ∀ {l : Surface} {pre ts : List Token} {e : Surface} {rest : List Token},
      Derives (.tier t) pre l → next l ts = some (e, rest) →
      ∃ mid, ts = mid ++ rest ∧ Derives (.tier t) (pre ++ mid) e)
    {l : Surface} {pre ts : List Token} {e : Surface} {rest : List Token}
    (hl : Derives (.tier t) pre l) (h : chainStep t operand next l ts = some (e, rest)) :
    ∃ mid, ts = mid ++ rest ∧ Derives (.tier t) (pre ++ mid) e := by
  cases ts with
  | nil =>
    simp only [chainStep, Option.some.injEq, Prod.mk.injEq] at h
    obtain ⟨rfl, rfl⟩ := h
    exact ⟨[], rfl, by simpa using hl⟩
  | cons tok ts =>
    cases hc : t.operator? tok with
    | none =>
      simp only [chainStep, hc, Option.some.injEq, Prod.mk.injEq] at h
      obtain ⟨rfl, rfl⟩ := h
      exact ⟨[], rfl, by simpa using hl⟩
    | some c =>
      simp only [chainStep, hc, Option.bind_eq_some_iff] at h
      obtain ⟨⟨r, ts'⟩, hr, hn⟩ := h
      obtain ⟨pre_r, rfl, dr⟩ := hop hr
      obtain ⟨mid, rfl, de⟩ := hnext (Derives.operator hc hl dr) hn
      exact ⟨tok :: pre_r ++ mid, by simp, by simpa using de⟩

namespace Sound

variable {f : Nat}

theorem parse_chain_succ (ih : Sound f) {t : Tier} (ht : t.isChain = true) {ts : List Token}
    {e : Surface} {rest : List Token} (h : t.parse (f + 1) ts = some (e, rest)) :
    ∃ pre, ts = pre ++ rest ∧ Derives (.tier t) pre e := by
  rw [Tier.parse_succ_of_isChain ht, Option.bind_eq_some_iff] at h
  obtain ⟨⟨l, ts'⟩, hl, hloop⟩ := h
  obtain ⟨pre, rfl, dl⟩ := ih.tier t.operand hl
  obtain ⟨mid, rfl, de⟩ := ih.loop t (Derives.down (Tier.ne_atom_of_isChain ht) dl) hloop
  exact ⟨pre ++ mid, by simp, de⟩

theorem loop_chain_succ (ih : Sound f) {t : Tier} (ht : t.isChain = true) {l : Surface}
    {pre ts : List Token} {e : Surface} {rest : List Token} (hl : Derives (.tier t) pre l)
    (h : t.loop (f + 1) l ts = some (e, rest)) :
    ∃ mid, ts = mid ++ rest ∧ Derives (.tier t) (pre ++ mid) e := by
  rw [Tier.loop_succ_of_isChain ht] at h
  exact chainStep_sound (ih.tier t.operand) (ih.loop t) hl h

theorem power_succ (ih : Sound f) {ts : List Token} {e : Surface} {rest : List Token}
    (h : Surface.power (f + 1) ts = some (e, rest)) :
    ∃ pre, ts = pre ++ rest ∧ Derives (.tier .power) pre e := by
  simp only [Surface.power, Option.bind_eq_bind, Option.bind_eq_some_iff] at h
  obtain ⟨⟨l, ts'⟩, hl, h⟩ := h
  obtain ⟨pre, rfl, dl⟩ := ih.tier .unary hl
  dsimp only at h
  split at h
  · rename_i us
    simp only [Option.bind_eq_some_iff, Option.pure_def] at h
    obtain ⟨⟨r, ts''⟩, hr, h⟩ := h
    obtain ⟨pre_r, rfl, dr⟩ := ih.tier .power hr
    simp only [Option.some.injEq, Prod.mk.injEq] at h
    obtain ⟨rfl, rfl⟩ := h
    exact ⟨pre ++ .sym .caret :: pre_r, by simp, Derives.power dl dr⟩
  · simp only [Option.pure_def, Option.some.injEq, Prod.mk.injEq] at h
    obtain ⟨rfl, rfl⟩ := h
    exact ⟨pre, rfl, Derives.down (by decide) dl⟩

theorem unary_succ (ih : Sound f) {ts : List Token} {e : Surface} {rest : List Token}
    (h : Surface.unary (f + 1) ts = some (e, rest)) :
    ∃ pre, ts = pre ++ rest ∧ Derives (.tier .unary) pre e := by
  have hprimary : Surface.primary f ts = some (e, rest) →
      ∃ pre, ts = pre ++ rest ∧ Derives (.tier .unary) pre e := by
    intro hp
    obtain ⟨pre, rfl, dp⟩ := ih.tier .primary hp
    exact ⟨pre, rfl, Derives.down (by decide) dp⟩
  cases ts with
  | nil => exact hprimary (by rwa [Surface.unary_succ_nil] at h)
  | cons tok us =>
    cases hc : unaryOp? tok with
    | none => exact hprimary (by rwa [Surface.unary_succ_primary hc] at h)
    | some c =>
      rw [Surface.unary_succ_op hc, Option.bind_eq_some_iff] at h
      obtain ⟨⟨u, ts'⟩, hu, h⟩ := h
      obtain ⟨pre, rfl, du⟩ := ih.tier .unary hu
      simp only [Option.some.injEq, Prod.mk.injEq] at h
      obtain ⟨rfl, rfl⟩ := h
      exact ⟨tok :: pre, rfl, Derives.unaryOp hc du⟩

theorem primary_succ (ih : Sound f) {ts : List Token} {e : Surface} {rest : List Token}
    (h : Surface.primary (f + 1) ts = some (e, rest)) :
    ∃ pre, ts = pre ++ rest ∧ Derives (.tier .primary) pre e := by
  by_cases hcall : ∃ n us, ts = .name n :: .sym .lparen :: us
  · obtain ⟨n, us, rfl⟩ := hcall
    rw [Surface.primary_succ_call] at h
    split at h
    · simp at h
    · rename_i hk
      rw [Option.bind_eq_some_iff] at h
      obtain ⟨⟨args, ts'⟩, ha, h⟩ := h
      obtain ⟨pre, rfl, hargs⟩ := ih.argsUntil ha
      have hkw : ¬ IsKeyword n := Surface.not_isKeyword_of_keyword? (by simpa using hk)
      have dc : Derives (.tier .primary) (.name n :: .sym .lparen :: pre ++ [Token.sym .rparen])
          (.call n args) := by
        rcases hargs with ⟨rfl, rfl⟩ | da
        · exact Derives.callEmpty hkw
        · exact Derives.call hkw da
      obtain ⟨mid, rfl, de⟩ := ih.loop .primary dc h
      exact ⟨.name n :: .sym .lparen :: pre ++ .sym .rparen :: mid, by simp, by simpa using de⟩
  · rw [Surface.primary_succ_atom (by simpa using hcall), Option.bind_eq_some_iff] at h
    obtain ⟨⟨a, ts'⟩, ha, h⟩ := h
    obtain ⟨pre, rfl, da⟩ := ih.tier .atom ha
    obtain ⟨mid, rfl, de⟩ := ih.loop .primary (Derives.down (by decide) da) h
    exact ⟨pre ++ mid, by simp, de⟩

theorem trailers_succ (ih : Sound f) {t : Surface} {pre ts : List Token} {e : Surface}
    {rest : List Token} (ht : Derives (.tier .primary) pre t)
    (h : Surface.trailers (f + 1) t ts = some (e, rest)) :
    ∃ mid, ts = mid ++ rest ∧ Derives (.tier .primary) (pre ++ mid) e := by
  have hstop : Surface.trailers (f + 1) t ts = some (t, ts) →
      ∃ mid, ts = mid ++ rest ∧ Derives (.tier .primary) (pre ++ mid) e := by
    intro hs
    rw [hs, Option.some.injEq, Prod.mk.injEq] at h
    obtain ⟨rfl, rfl⟩ := h
    exact ⟨[], rfl, by simpa using ht⟩
  rcases ts with _ | ⟨tok, us⟩
  · exact hstop rfl
  by_cases hdot : tok = .sym .dot
  · subst hdot
    rcases us with _ | ⟨tok, vs⟩
    · simp [Surface.trailers] at h
    cases tok with
    | name n =>
      obtain ⟨mid, rfl, de⟩ := ih.loop .primary (Derives.member ht) h
      exact ⟨.sym .dot :: .name n :: mid, by simp, by simpa using de⟩
    | number _ | string _ | template _ | sym _ => simp [Surface.trailers] at h
  by_cases hbr : tok = .sym .lbracket
  · subst hbr
    simp only [Surface.trailers, Option.bind_eq_bind, Option.bind_eq_some_iff] at h
    obtain ⟨⟨k, ts'⟩, hk, h⟩ := h
    obtain ⟨pre_k, rfl, dk⟩ := ih.tier .or hk
    dsimp only at h
    split at h
    · obtain ⟨mid, rfl, de⟩ := ih.loop .primary (Derives.index ht dk) h
      exact ⟨.sym .lbracket :: pre_k ++ .sym .rbracket :: mid, by simp, by simpa using de⟩
    · simp at h
  · exact hstop (by rw [Surface.trailers] <;> simp_all)

theorem atom_succ (ih : Sound f) {ts : List Token} {e : Surface} {rest : List Token}
    (h : Surface.atom (f + 1) ts = some (e, rest)) :
    ∃ pre, ts = pre ++ rest ∧ Derives (.tier .atom) pre e := by
  have hone : ∀ {tok : Token} {us : List Token} {a : Surface}, Derives (.tier .atom) [tok] a →
      some (a, us) = some (e, rest) → ∃ pre, tok :: us = pre ++ rest ∧ Derives (.tier .atom) pre e := by
    intro tok us a da hs
    simp only [Option.some.injEq, Prod.mk.injEq] at hs
    obtain ⟨rfl, rfl⟩ := hs
    exact ⟨[tok], rfl, da⟩
  rcases ts with _ | ⟨tok, us⟩
  · simp [Surface.atom] at h
  cases tok with
  | number t => exact hone Derives.number h
  | string b => exact hone Derives.string h
  | template b => exact hone Derives.template h
  | name n =>
    simp only [Surface.atom] at h
    cases hk : Surface.keyword? n with
    | some v =>
      rw [hk] at h
      exact hone (Derives.constant (Surface.keyword?_eq_some_iff.1 hk)) h
    | none =>
      rw [hk] at h
      exact hone (Derives.var (Surface.not_isKeyword_of_keyword? hk)) h
  | sym s =>
    cases s with
    | lparen =>
      simp only [Surface.atom, Option.bind_eq_bind, Option.bind_eq_some_iff] at h
      obtain ⟨⟨e', ts'⟩, he, h⟩ := h
      obtain ⟨pre, rfl, de⟩ := ih.tier .or he
      dsimp only at h
      split at h
      · simp only [Option.some.injEq, Prod.mk.injEq] at h
        obtain ⟨rfl, rfl⟩ := h
        exact ⟨.sym .lparen :: pre ++ [Token.sym .rparen], by simp, Derives.paren de⟩
      · simp at h
    | lbracket =>
      simp only [Surface.atom, Option.bind_eq_bind, Option.bind_eq_some_iff, Option.pure_def] at h
      obtain ⟨⟨items, ts'⟩, hi, h⟩ := h
      obtain ⟨pre, rfl, hargs⟩ := ih.argsUntil hi
      simp only [Option.some.injEq, Prod.mk.injEq] at h
      obtain ⟨rfl, rfl⟩ := h
      rcases hargs with ⟨rfl, rfl⟩ | da
      · exact ⟨[Token.sym .lbracket, .sym .rbracket], rfl, Derives.arrayEmpty⟩
      · exact ⟨.sym .lbracket :: pre ++ [Token.sym .rbracket], by simp, Derives.array da⟩
    | lbrace =>
      simp only [Surface.atom] at h
      split at h
      · simp only [Option.some.injEq, Prod.mk.injEq] at h
        obtain ⟨rfl, rfl⟩ := h
        exact ⟨[Token.sym .lbrace, .sym .rbrace], rfl, Derives.objectEmpty⟩
      · simp only [Option.bind_eq_bind, Option.bind_eq_some_iff, Option.pure_def] at h
        obtain ⟨⟨ps, ts'⟩, hp, h⟩ := h
        obtain ⟨pre, items, rfl, dp, rfl⟩ := ih.pairs hp
        simp only [Option.some.injEq, Prod.mk.injEq] at h
        obtain ⟨rfl, rfl⟩ := h
        exact ⟨.sym .lbrace :: pre ++ [Token.sym .rbrace], by simp, by simpa using Derives.object dp⟩
    | orOr | andAnd | eqEq | bangEq | lt | le | gt | ge | plus | minus | star | slash | percent
    | caret | bang | dot | rbracket | rparen | comma | rbrace | colon => simp [Surface.atom] at h

theorem argsUntil_succ (ih : Sound f) {close : Symbol} {ts : List Token} {es : List Surface}
    {rest : List Token} (h : Surface.argsUntil (f + 1) close ts = some (es, rest)) :
    ∃ pre, ts = pre ++ .sym close :: rest ∧ (pre = [] ∧ es = [] ∨ Derives .arguments pre es) := by
  have hmore : Surface.argsMore f close [] ts = some (es, rest) →
      ∃ pre, ts = pre ++ .sym close :: rest ∧ (pre = [] ∧ es = [] ∨ Derives .arguments pre es) := by
    intro hm
    obtain ⟨pre, items, rfl, da, rfl⟩ := ih.argsMore hm
    exact ⟨pre, rfl, .inr (by simpa using da)⟩
  simp only [Surface.argsUntil] at h
  split at h
  · split at h
    · rename_i hs
      subst hs
      simp only [Option.some.injEq, Prod.mk.injEq] at h
      obtain ⟨rfl, rfl⟩ := h
      exact ⟨[], rfl, .inl ⟨rfl, rfl⟩⟩
    · exact hmore h
  · exact hmore h

theorem argsMore_succ (ih : Sound f) {close : Symbol} {acc : List Surface} {ts : List Token}
    {es : List Surface} {rest : List Token}
    (h : Surface.argsMore (f + 1) close acc ts = some (es, rest)) :
    ∃ pre items, ts = pre ++ .sym close :: rest ∧ Derives .arguments pre items ∧
      es = acc.reverse ++ items := by
  simp only [Surface.argsMore, Option.bind_eq_bind, Option.bind_eq_some_iff] at h
  obtain ⟨⟨e, ts'⟩, he, h⟩ := h
  obtain ⟨pre, rfl, de⟩ := ih.tier .or he
  dsimp only at h
  split at h
  · obtain ⟨pre', items, rfl, da, rfl⟩ := ih.argsMore h
    exact ⟨pre ++ .sym .comma :: pre', e :: items, by simp, Derives.arguments de da, by simp⟩
  · split at h
    · rename_i hs
      subst hs
      simp only [Option.some.injEq, Prod.mk.injEq] at h
      obtain ⟨rfl, rfl⟩ := h
      exact ⟨pre, [e], rfl, Derives.argument de, by simp⟩
    · simp at h
  · simp at h

theorem pairs_succ (ih : Sound f) {acc : List (SurfaceKey × Surface)} {ts : List Token}
    {ps : List (SurfaceKey × Surface)} {rest : List Token}
    (h : Surface.pairs (f + 1) acc ts = some (ps, rest)) :
    ∃ pre items, ts = pre ++ .sym .rbrace :: rest ∧ Derives .pairs pre items ∧
      ps = acc.reverse ++ items := by
  simp only [Surface.pairs] at h
  split at h
  · simp at h
  · rename_i k us hkey
    have hts : ts = keyToken k :: .sym .colon :: us := by
      split at hkey <;> simp only [Option.some.injEq, Prod.mk.injEq, reduceCtorEq] at hkey
      all_goals
        obtain ⟨rfl, rfl⟩ := hkey
        rfl
    subst hts
    simp only [Option.bind_eq_bind, Option.bind_eq_some_iff] at h
    obtain ⟨⟨e, ts'⟩, he, h⟩ := h
    obtain ⟨pre, rfl, de⟩ := ih.tier .or he
    dsimp only at h
    split at h
    · obtain ⟨pre', items, rfl, dp, rfl⟩ := ih.pairs h
      exact ⟨keyToken k :: .sym .colon :: pre ++ .sym .comma :: pre', (k, e) :: items, by simp,
        Derives.pairs de dp, by simp⟩
    · simp only [Option.some.injEq, Prod.mk.injEq] at h
      obtain ⟨rfl, rfl⟩ := h
      exact ⟨keyToken k :: .sym .colon :: pre, [(k, e)], by simp, Derives.pair de, by simp⟩
    · simp at h

theorem stop {t : Tier} {l : Surface} {pre ts : List Token} {e : Surface} {rest : List Token}
    (hl : Derives (.tier t) pre l) (h : some (l, ts) = some (e, rest)) :
    ∃ mid, ts = mid ++ rest ∧ Derives (.tier t) (pre ++ mid) e := by
  simp only [Option.some.injEq, Prod.mk.injEq] at h
  obtain ⟨rfl, rfl⟩ := h
  exact ⟨[], rfl, by simpa using hl⟩

theorem zero : Sound 0 where
  tier t _ _ _ h := by cases t <;> simp [Tier.parse, Surface.expr, Surface.conj,
    Surface.comparison, Surface.sum, Surface.product, Surface.power, Surface.unary,
    Surface.primary, Surface.atom] at h
  loop t _ _ _ _ _ hl h := by
    cases t with
    | or | and | comparison | sum | product | primary =>
      simp [Tier.loop, Surface.exprRest, Surface.conjRest, Surface.comparisonRest,
        Surface.sumRest, Surface.productRest, Surface.trailers] at h
    | power | unary | atom => exact stop hl h
  argsUntil h := by simp [Surface.argsUntil] at h
  argsMore h := by simp [Surface.argsMore] at h
  pairs h := by simp [Surface.pairs] at h

theorem succ (ih : Sound f) : Sound (f + 1) where
  tier t _ _ _ h := by
    cases t with
    | or | and | comparison | sum | product => exact ih.parse_chain_succ rfl h
    | power => exact ih.power_succ h
    | unary => exact ih.unary_succ h
    | primary => exact ih.primary_succ h
    | atom => exact ih.atom_succ h
  loop t _ _ _ _ _ hl h := by
    cases t with
    | or | and | comparison | sum | product => exact ih.loop_chain_succ rfl hl h
    | primary => exact ih.trailers_succ hl h
    | power | unary | atom => exact stop hl h
  argsUntil h := ih.argsUntil_succ h
  argsMore h := ih.argsMore_succ h
  pairs h := ih.pairs_succ h

end Sound

theorem sound (f : Nat) : Sound f := by
  induction f with
  | zero => exact Sound.zero
  | succ f ih => exact ih.succ

end Grammar

namespace Surface

open Grammar

theorem sentence_of_parse? {ts : List Token} {s : Surface} (h : parse? ts = some s) :
    Sentence ts s := by
  unfold parse? at h
  split at h
  · rename_i e hexpr
    simp only [Option.some.injEq] at h
    subst h
    obtain ⟨pre, hts, d⟩ := (sound (16 * (ts.length + 1))).tier .or hexpr
    rw [List.append_nil] at hts
    subst hts
    exact d
  · simp at h

end Surface

namespace Grammar

/-! ## Completeness: every derivation is found -/

namespace Tier

/-- How tightly a tier binds, the atoms tightest. -/
def rank : Tier → Nat
  | .atom => 1
  | .primary => 2
  | .unary => 3
  | .power => 4
  | .product => 5
  | .sum => 6
  | .comparison => 7
  | .and => 8
  | .or => 9

/-- The rank of the tokens a tier's parsing function leaves to its loop: those of its own
operators, or the trailers of a primary. Every tighter token must have been taken. -/
def inner : Tier → Nat
  | .atom => 1
  | .primary => 1
  | .unary => 3
  | .power => 4
  | .product => 4
  | .sum => 5
  | .comparison => 6
  | .and => 7
  | .or => 8

theorem rank_operand {t : Tier} (h : t ≠ .atom) : t.operand.rank + 1 = t.rank := by
  cases t <;> simp_all [rank, operand]

theorem inner_le_rank (t : Tier) : t.inner ≤ t.rank := by
  cases t <;> simp [inner, rank]

theorem inner_of_isChain {t : Tier} (ht : t.isChain = true) : t.inner = t.operand.rank := by
  cases t <;> simp_all [inner, rank, operand, isChain]

end Tier

/-- The tier at which a token would continue a finished tree: an infix operator at its
own tier, `^` at the power tier, a member or an index at the primary tier, and an opening
parenthesis, which would make a name a call, at the atom tier. -/
def continues? : Token → Option Tier
  | .sym .orOr => some .or
  | .sym .andAnd => some .and
  | .sym .eqEq | .sym .bangEq | .sym .lt | .sym .le | .sym .gt | .sym .ge => some .comparison
  | .sym .plus | .sym .minus => some .sum
  | .sym .star | .sym .slash | .sym .percent => some .product
  | .sym .caret => some .power
  | .sym .dot | .sym .lbracket => some .primary
  | .sym .lparen => some .atom
  | _ => none

theorem continues?_of_operator? {t : Tier} {tok : Token} {c : Surface → Surface → Surface}
    (h : t.operator? tok = some c) : continues? tok = some t := by
  cases t <;> cases tok <;> simp [Tier.operator?] at h
  all_goals
    rename_i s
    cases s <;> simp_all [continues?]

/-- The tokens `rest` continue no tree of a tier of rank at most `k`. -/
def Stops (k : Nat) (rest : List Token) : Prop :=
  ∀ tok t, rest.head? = some tok → continues? tok = some t → k < t.rank

theorem Stops.nil (k : Nat) : Stops k [] := by
  simp [Stops]

theorem stops_cons {k : Nat} {tok : Token} {rest : List Token} :
    Stops k (tok :: rest) ↔ ∀ t, continues? tok = some t → k < t.rank := by
  constructor
  · intro h t ht
    exact h tok t rfl ht
  · intro h tok' t hh ht
    simp only [List.head?_cons, Option.some.injEq] at hh
    subst hh
    exact h t ht

theorem Stops.mono {k k' : Nat} {rest : List Token} (h : k' ≤ k) (hs : Stops k rest) :
    Stops k' rest := fun tok t hh hc => Nat.lt_of_le_of_lt h (hs tok t hh hc)

theorem stops_of_continues?_none {k : Nat} {tok : Token} (h : continues? tok = none)
    (rest : List Token) : Stops k (tok :: rest) := by
  simp [stops_cons, h]

theorem loop_stop {t : Tier} {g : Nat} {e : Surface} {rest : List Token}
    (hs : Stops t.rank rest) (hg : 1 ≤ g) : t.loop g e rest = some (e, rest) := by
  obtain ⟨g, rfl⟩ : ∃ g', g = g' + 1 := ⟨g - 1, by omega⟩
  by_cases ht : t.isChain = true
  · rw [Tier.loop_succ_of_isChain ht]
    rcases rest with _ | ⟨tok, rest⟩
    · rfl
    · cases hc : t.operator? tok with
      | none => simp [chainStep, hc]
      | some c =>
        have := stops_cons.1 hs t (continues?_of_operator? hc)
        omega
  · cases t with
    | or | and | comparison | sum | product => simp [Tier.isChain] at ht
    | power | unary | atom => rfl
    | primary =>
      have hdot : ∀ vs, rest ≠ .sym .dot :: vs := by
        rintro vs rfl
        simpa [Tier.rank, continues?] using stops_cons.1 hs .primary
      have hbr : ∀ vs, rest ≠ .sym .lbracket :: vs := by
        rintro vs rfl
        simpa [Tier.rank, continues?] using stops_cons.1 hs .primary
      show Surface.trailers (g + 1) e rest = some (e, rest)
      rw [Surface.trailers] <;> simp_all

/-- What the parser does with the tokens of a derivation followed by `rest`. A tier's
function, with fuel enough for the tokens, parses them and leaves `rest` to the tier's
loop, with fuel that the tokens used no more than one unit each of; arguments and entries
are parsed up to their closing symbol. -/
def Finds : (r : Rule) → List Token → r.Tree → Prop
  | .tier t, ts, e => ∀ rest f, Stops t.inner rest → 16 * ts.length + t.rank ≤ f →
      ∃ g, f ≤ g + ts.length ∧ t.parse f (ts ++ rest) = t.loop g e rest
  | .arguments, ts, es => ∀ close acc rest f, (close = .rparen ∨ close = .rbracket) →
      16 * ts.length + 10 ≤ f →
      Surface.argsMore f close acc (ts ++ .sym close :: rest) = some (acc.reverse ++ es, rest)
  | .pairs, ts, ps => ∀ acc rest f, 16 * ts.length + 10 ≤ f →
      Surface.pairs f acc (ts ++ .sym .rbrace :: rest) = some (acc.reverse ++ ps, rest)

theorem Finds.closed {t : Tier} {ts : List Token} {e : Surface} (h : Finds (.tier t) ts e)
    (hne : ts ≠ []) {rest : List Token} {f : Nat} (hs : Stops t.rank rest)
    (hf : 16 * ts.length + t.rank ≤ f) : t.parse f (ts ++ rest) = some (e, rest) := by
  obtain ⟨g, hg, hp⟩ := h rest f (hs.mono (Tier.inner_le_rank t)) hf
  have hlen : 0 < ts.length := List.length_pos_iff.2 hne
  rw [hp, loop_stop hs (by omega)]

/-- The tokens a tree of the primary tier can start with. -/
def startsPrimary : Token → Bool
  | .name _ | .number _ | .string _ | .template _ => true
  | .sym .lparen | .sym .lbracket | .sym .lbrace => true
  | _ => false

theorem unaryOp?_eq_none_of_startsPrimary {tok : Token} (h : startsPrimary tok = true) :
    unaryOp? tok = none := by
  cases tok with
  | sym s => cases s <;> simp_all [startsPrimary, unaryOp?]
  | name _ | number _ | string _ | template _ => rfl

theorem Derives.head {r : Rule} {ts : List Token} {x : r.Tree} (h : Derives r ts x) :
    ∀ t tok vs, r = .tier t → ts = tok :: vs →
      startsPrimary tok = true ∨ (3 ≤ t.rank ∧ (unaryOp? tok).isSome = true) := by
  induction h with
  | down hne _ ih =>
    intro t tok vs hr hts
    cases hr
    rcases ih _ tok vs rfl hts with h | ⟨h, hp⟩
    · exact .inl h
    · exact .inr ⟨by have := Tier.rank_operand hne; omega, hp⟩
  | operator _ hl _ ihl _ =>
    intro t tok vs hr hts
    cases hr
    obtain ⟨u, us, rfl⟩ := List.exists_cons_of_ne_nil hl.ne_nil
    simp only [List.cons_append, List.cons.injEq] at hts
    obtain ⟨rfl, -⟩ := hts
    exact ihl _ u us rfl rfl
  | power hl _ ihl _ =>
    intro t tok vs hr hts
    cases hr
    obtain ⟨u, us, rfl⟩ := List.exists_cons_of_ne_nil hl.ne_nil
    simp only [List.cons_append, List.cons.injEq] at hts
    obtain ⟨rfl, -⟩ := hts
    rcases ihl _ u us rfl rfl with h | ⟨-, hp⟩
    · exact .inl h
    · exact .inr ⟨by decide, hp⟩
  | unaryOp hc _ _ =>
    intro t tok vs hr hts
    cases hr
    cases hts
    exact .inr ⟨by decide, by simp [hc]⟩
  | member hd ih | index hd _ ih _ =>
    intro t tok vs hr hts
    cases hr
    obtain ⟨u, us, rfl⟩ := List.exists_cons_of_ne_nil hd.ne_nil
    simp only [List.cons_append, List.cons.injEq] at hts
    obtain ⟨rfl, -⟩ := hts
    exact ih _ u us rfl rfl
  | callEmpty _ | call _ _ _ | number | string | template | constant _ | var _ | paren _ _
  | arrayEmpty | array _ _ | objectEmpty | object _ _ =>
    intro t tok vs hr hts
    cases hts
    exact .inl rfl
  | argument _ _ | arguments _ _ _ _ | pair _ _ | pairs _ _ _ _ =>
    intro t tok vs hr
    cases hr

theorem Derives.startsPrimary_head {t : Tier} {tok : Token} {vs : List Token} {e : Surface}
    (h : Derives (.tier t) (tok :: vs) e) (ht : t.rank ≤ 2) : startsPrimary tok = true := by
  rcases h.head t tok vs rfl rfl with h | ⟨h, -⟩
  · exact h
  · omega

theorem Derives.ne_close {t : Tier} {ts : List Token} {e : Surface} (h : Derives (.tier t) ts e)
    {close : Symbol} (hclose : close = .rparen ∨ close = .rbracket) (vs : List Token) :
    ts ≠ .sym close :: vs := by
  rintro rfl
  rcases h.head t _ vs rfl rfl with h | ⟨-, h⟩ <;>
    rcases hclose with rfl | rfl <;> simp [startsPrimary, unaryOp?] at h

theorem Derives.arguments_ne_close {ts : List Token} {es : List Surface}
    (h : Derives .arguments ts es) {close : Symbol} (hclose : close = .rparen ∨ close = .rbracket)
    (vs : List Token) : ts ≠ .sym close :: vs := by
  cases h with
  | argument hd => exact hd.ne_close hclose vs
  | arguments hd _ =>
    intro heq
    obtain ⟨u, us, rfl⟩ := List.exists_cons_of_ne_nil hd.ne_nil
    simp only [List.cons_append, List.cons.injEq] at heq
    obtain ⟨rfl, -⟩ := heq
    exact hd.ne_close hclose us rfl

theorem Derives.pairs_head {ts : List Token} {ps : List (SurfaceKey × Surface)}
    (h : Derives .pairs ts ps) : ∃ k vs, ts = keyToken k :: vs := by
  cases h with
  | pair _ => exact ⟨_, _, rfl⟩
  | pairs _ _ => exact ⟨_, _, rfl⟩

theorem Derives.atom_name {ts : List Token} {e : Surface} (h : Derives (.tier .atom) ts e)
    {n : Text} {vs : List Token} (hts : ts = .name n :: vs) : vs = [] := by
  cases h <;> simp_all [Tier.operator?]

section Cases

variable {ts us : List Token} {e l r : Surface}

theorem finds_down_chain {t : Tier} (ht : t.isChain = true) (hne : ts ≠ [])
    (ih : Finds (.tier t.operand) ts e) : Finds (.tier t) ts e := by
  intro rest f hs hf
  have hrank := Tier.rank_operand (Tier.ne_atom_of_isChain ht)
  have hlen : 0 < ts.length := List.length_pos_iff.2 hne
  obtain ⟨f, rfl⟩ : ∃ f', f = f' + 1 := ⟨f - 1, by omega⟩
  have hop : t.operand.parse f (ts ++ rest) = some (e, rest) :=
    ih.closed hne (by rwa [← Tier.inner_of_isChain ht]) (by omega)
  refine ⟨f, by omega, ?_⟩
  rw [Tier.parse_succ_of_isChain ht, hop]
  rfl

theorem finds_operator {t : Tier} {tok : Token} {c : Surface → Surface → Surface}
    (hc : t.operator? tok = some c) (hr : Derives (.tier t.operand) us r)
    (ihl : Finds (.tier t) ts l) (ihr : Finds (.tier t.operand) us r) :
    Finds (.tier t) (ts ++ tok :: us) (c l r) := by
  have ht := Tier.isChain_of_operator? hc
  have hinner := Tier.inner_of_isChain ht
  have hrank := Tier.rank_operand (Tier.ne_atom_of_isChain ht)
  intro rest f hs hf
  simp only [List.length_append, List.length_cons] at hf
  have hsl : Stops t.inner (tok :: (us ++ rest)) := by
    rw [stops_cons]
    intro t' ht'
    rw [continues?_of_operator? hc] at ht'
    cases ht'
    omega
  obtain ⟨g, hg, hleft⟩ := ihl (tok :: (us ++ rest)) f hsl (by omega)
  obtain ⟨g, rfl⟩ : ∃ g', g = g' + 1 := ⟨g - 1, by omega⟩
  have hright : t.operand.parse g (us ++ rest) = some (r, rest) :=
    ihr.closed hr.ne_nil (by rwa [← hinner]) (by omega)
  refine ⟨g, by simp; omega, ?_⟩
  rw [List.append_assoc, List.cons_append, hleft, Tier.loop_succ_of_isChain ht]
  simp [chainStep, hc, hright]

theorem finds_power_down (hne : ts ≠ []) (ih : Finds (.tier .unary) ts e) :
    Finds (.tier .power) ts e := by
  intro rest f hs hf
  simp only [Tier.inner, Tier.rank] at hs hf
  have hlen : 0 < ts.length := List.length_pos_iff.2 hne
  obtain ⟨f, rfl⟩ : ∃ f', f = f' + 1 := ⟨f - 1, by omega⟩
  have hu : Surface.unary f (ts ++ rest) = some (e, rest) :=
    ih.closed hne (hs.mono (by decide)) (by simp only [Tier.rank]; omega)
  have hcaret : ∀ vs, rest ≠ .sym .caret :: vs := by
    rintro vs rfl
    simpa [Tier.rank, continues?] using stops_cons.1 hs .power
  exact ⟨f + 1, by omega, Surface.power_succ_stop hu hcaret⟩

theorem finds_power (hl : Derives (.tier .unary) ts l) (hr : Derives (.tier .power) us r)
    (ihl : Finds (.tier .unary) ts l) (ihr : Finds (.tier .power) us r) :
    Finds (.tier .power) (ts ++ .sym .caret :: us) (.binary .pow l r) := by
  intro rest f hs hf
  simp only [Tier.inner, Tier.rank, List.length_append, List.length_cons] at hs hf
  obtain ⟨f, rfl⟩ : ∃ f', f = f' + 1 := ⟨f - 1, by omega⟩
  have hsu : Stops Tier.unary.rank (.sym .caret :: (us ++ rest)) := by
    rw [stops_cons]
    intro t ht
    simp only [continues?, Option.some.injEq] at ht
    subst ht
    decide
  have hu : Surface.unary f (ts ++ .sym .caret :: (us ++ rest)) =
      some (l, .sym .caret :: (us ++ rest)) :=
    ihl.closed hl.ne_nil hsu (by simp only [Tier.rank]; omega)
  have hp : Surface.power f (us ++ rest) = some (r, rest) :=
    ihr.closed hr.ne_nil hs (by simp only [Tier.rank]; omega)
  refine ⟨f + 1, by simp, ?_⟩
  show Surface.power (f + 1) (ts ++ .sym .caret :: us ++ rest) = some (.binary .pow l r, rest)
  rw [List.append_assoc, List.cons_append, Surface.power_succ_caret hu, hp]
  rfl

theorem finds_unaryOp {tok : Token} {c : Surface → Surface} (hc : unaryOp? tok = some c)
    (hd : Derives (.tier .unary) ts e) (ih : Finds (.tier .unary) ts e) :
    Finds (.tier .unary) (tok :: ts) (c e) := by
  intro rest f hs hf
  simp only [Tier.inner, Tier.rank, List.length_cons] at hs hf
  obtain ⟨f, rfl⟩ : ∃ f', f = f' + 1 := ⟨f - 1, by omega⟩
  have hu : Surface.unary f (ts ++ rest) = some (e, rest) :=
    ih.closed hd.ne_nil hs (by simp only [Tier.rank]; omega)
  refine ⟨f + 1, by simp, ?_⟩
  show Surface.unary (f + 1) (tok :: ts ++ rest) = some (c e, rest)
  rw [List.cons_append, Surface.unary_succ_op hc, hu]
  rfl

theorem finds_unary_down (hd : Derives (.tier .primary) ts e)
    (ih : Finds (.tier .primary) ts e) : Finds (.tier .unary) ts e := by
  intro rest f hs hf
  simp only [Tier.inner, Tier.rank] at hs hf
  have hlen : 0 < ts.length := List.length_pos_iff.2 hd.ne_nil
  obtain ⟨f, rfl⟩ : ∃ f', f = f' + 1 := ⟨f - 1, by omega⟩
  have hp : Surface.primary f (ts ++ rest) = some (e, rest) :=
    ih.closed hd.ne_nil (hs.mono (by decide)) (by simp only [Tier.rank]; omega)
  obtain ⟨tok, vs, rfl⟩ := List.exists_cons_of_ne_nil hd.ne_nil
  have hnp : unaryOp? tok = none :=
    unaryOp?_eq_none_of_startsPrimary (hd.startsPrimary_head (by decide))
  refine ⟨f + 1, by omega, ?_⟩
  show Surface.unary (f + 1) (tok :: vs ++ rest) = some (e, rest)
  rw [List.cons_append, Surface.unary_succ_primary hnp, ← List.cons_append, hp]

theorem finds_primary_down (hd : Derives (.tier .atom) ts e) (ih : Finds (.tier .atom) ts e) :
    Finds (.tier .primary) ts e := by
  intro rest f hs hf
  simp only [Tier.inner, Tier.rank] at hs hf
  have hlen : 0 < ts.length := List.length_pos_iff.2 hd.ne_nil
  obtain ⟨f, rfl⟩ : ∃ f', f = f' + 1 := ⟨f - 1, by omega⟩
  have ha : Surface.atom f (ts ++ rest) = some (e, rest) :=
    ih.closed hd.ne_nil hs (by simp only [Tier.rank]; omega)
  have hcall : ∀ n vs, ts ++ rest ≠ .name n :: .sym .lparen :: vs := by
    intro n vs heq
    obtain ⟨tok, ws, rfl⟩ := List.exists_cons_of_ne_nil hd.ne_nil
    simp only [List.cons_append, List.cons.injEq] at heq
    obtain ⟨rfl, hws⟩ := heq
    obtain rfl := hd.atom_name rfl
    simp only [List.nil_append] at hws
    subst hws
    simpa [Tier.rank, continues?] using stops_cons.1 hs .atom
  refine ⟨f, by omega, ?_⟩
  show Surface.primary (f + 1) (ts ++ rest) = Surface.trailers f e rest
  rw [Surface.primary_succ_atom hcall, ha]
  rfl

theorem finds_member {t : Surface} {n : Text} (ih : Finds (.tier .primary) ts t) :
    Finds (.tier .primary) (ts ++ [Token.sym .dot, .name n]) (.member t n) := by
  intro rest f hs hf
  simp only [Tier.inner, Tier.rank, List.length_append, List.length_cons,
    List.length_nil] at hs hf
  have hsd : Stops Tier.primary.inner (.sym .dot :: .name n :: rest) := by
    rw [stops_cons]
    intro t ht
    simp only [continues?, Option.some.injEq] at ht
    subst ht
    decide
  obtain ⟨g, hg, h⟩ := ih (.sym .dot :: .name n :: rest) f hsd (by simp only [Tier.rank]; omega)
  obtain ⟨g, rfl⟩ : ∃ g', g = g' + 1 := ⟨g - 1, by omega⟩
  refine ⟨g, by simp; omega, ?_⟩
  rw [List.append_assoc]
  exact h

theorem finds_index {t k : Surface} (hk : Derives (.tier .or) us k)
    (iht : Finds (.tier .primary) ts t) (ihk : Finds (.tier .or) us k) :
    Finds (.tier .primary) (ts ++ .sym .lbracket :: us ++ [Token.sym .rbracket]) (.index t k) := by
  intro rest f hs hf
  simp only [Tier.inner, Tier.rank, List.length_append, List.length_cons,
    List.length_nil] at hs hf
  have hsb : Stops Tier.primary.inner (.sym .lbracket :: (us ++ .sym .rbracket :: rest)) := by
    rw [stops_cons]
    intro t ht
    simp only [continues?, Option.some.injEq] at ht
    subst ht
    decide
  obtain ⟨g, hg, h⟩ := iht _ f hsb (by simp only [Tier.rank]; omega)
  obtain ⟨g, rfl⟩ : ∃ g', g = g' + 1 := ⟨g - 1, by omega⟩
  have hkey : Surface.expr g (us ++ .sym .rbracket :: rest) = some (k, .sym .rbracket :: rest) :=
    ihk.closed hk.ne_nil (stops_of_continues?_none rfl rest) (by simp only [Tier.rank]; omega)
  refine ⟨g, by simp; omega, ?_⟩
  have hts : ts ++ .sym .lbracket :: us ++ [Token.sym .rbracket] ++ rest =
      ts ++ .sym .lbracket :: (us ++ .sym .rbracket :: rest) := by simp
  rw [hts, h]
  exact Surface.trailers_succ_index hkey

theorem finds_callEmpty {n : Text} (hn : ¬ IsKeyword n) :
    Finds (.tier .primary) [.name n, .sym .lparen, .sym .rparen] (.call n []) := by
  intro rest f hs hf
  simp only [Tier.rank, List.length_cons, List.length_nil] at hf
  obtain ⟨f, rfl⟩ : ∃ f', f = f' + 2 := ⟨f - 2, by omega⟩
  refine ⟨f + 1, by simp, ?_⟩
  show Surface.primary (f + 1 + 1) (.name n :: .sym .lparen :: .sym .rparen :: rest) =
    Surface.trailers (f + 1) (.call n []) rest
  rw [Surface.primary_succ_call, Surface.keyword?_eq_none hn]
  simp [Surface.argsUntil_succ_close]

theorem finds_call {n : Text} {args : List Surface} (hn : ¬ IsKeyword n)
    (hd : Derives .arguments ts args) (ih : Finds .arguments ts args) :
    Finds (.tier .primary) (.name n :: .sym .lparen :: ts ++ [Token.sym .rparen]) (.call n args) := by
  intro rest f hs hf
  simp only [Tier.rank, List.length_cons, List.length_append, List.length_nil] at hf
  obtain ⟨f, rfl⟩ : ∃ f', f = f' + 2 := ⟨f - 2, by omega⟩
  have hargs : Surface.argsUntil (f + 1) .rparen (ts ++ .sym .rparen :: rest) =
      some (args, rest) := by
    rw [Surface.argsUntil_succ_more (fun vs heq => by
      obtain ⟨u, us, rfl⟩ := List.exists_cons_of_ne_nil hd.ne_nil
      simp only [List.cons_append, List.cons.injEq] at heq
      exact hd.arguments_ne_close (.inl rfl) us (by rw [heq.1]))]
    simpa using ih .rparen [] rest f (.inl rfl) (by omega)
  refine ⟨f + 1, by simp; omega, ?_⟩
  show Surface.primary (f + 1 + 1) (.name n :: .sym .lparen :: (ts ++ [Token.sym .rparen]) ++ rest) =
    Surface.trailers (f + 1) (.call n args) rest
  rw [List.cons_append, List.cons_append, List.append_assoc, List.singleton_append,
    Surface.primary_succ_call, Surface.keyword?_eq_none hn]
  simp [hargs]

theorem finds_token {tok : Token} {a : Surface}
    (h : ∀ f rest, Surface.atom (f + 1) (tok :: rest) = some (a, rest)) :
    Finds (.tier .atom) [tok] a := by
  intro rest f hs hf
  simp only [Tier.rank, List.length_cons, List.length_nil] at hf
  obtain ⟨f, rfl⟩ : ∃ f', f = f' + 1 := ⟨f - 1, by omega⟩
  exact ⟨f + 1, by simp, h f rest⟩

theorem finds_paren (hd : Derives (.tier .or) ts e) (ih : Finds (.tier .or) ts e) :
    Finds (.tier .atom) (.sym .lparen :: ts ++ [Token.sym .rparen]) e := by
  intro rest f hs hf
  simp only [Tier.rank, List.length_cons, List.length_append, List.length_nil] at hf
  obtain ⟨f, rfl⟩ : ∃ f', f = f' + 1 := ⟨f - 1, by omega⟩
  have he : Surface.expr f (ts ++ .sym .rparen :: rest) = some (e, .sym .rparen :: rest) :=
    ih.closed hd.ne_nil (stops_of_continues?_none rfl rest) (by simp only [Tier.rank]; omega)
  refine ⟨f + 1, by simp, ?_⟩
  show Surface.atom (f + 1) (.sym .lparen :: (ts ++ [Token.sym .rparen]) ++ rest) = some (e, rest)
  rw [List.cons_append, List.append_assoc, List.singleton_append]
  exact Surface.atom_succ_paren he

theorem finds_arrayEmpty :
    Finds (.tier .atom) [Token.sym .lbracket, .sym .rbracket] (.array []) := by
  intro rest f hs hf
  simp only [Tier.rank, List.length_cons, List.length_nil] at hf
  obtain ⟨f, rfl⟩ : ∃ f', f = f' + 2 := ⟨f - 2, by omega⟩
  refine ⟨f + 2, by simp, ?_⟩
  show Surface.atom (f + 1 + 1) (.sym .lbracket :: .sym .rbracket :: rest) = some (.array [], rest)
  rw [Surface.atom_succ_array, Surface.argsUntil_succ_close]
  rfl

theorem finds_array {items : List Surface} (hd : Derives .arguments ts items)
    (ih : Finds .arguments ts items) :
    Finds (.tier .atom) (.sym .lbracket :: ts ++ [Token.sym .rbracket]) (.array items) := by
  intro rest f hs hf
  simp only [Tier.rank, List.length_cons, List.length_append, List.length_nil] at hf
  obtain ⟨f, rfl⟩ : ∃ f', f = f' + 2 := ⟨f - 2, by omega⟩
  have hargs : Surface.argsUntil (f + 1) .rbracket (ts ++ .sym .rbracket :: rest) =
      some (items, rest) := by
    rw [Surface.argsUntil_succ_more (fun vs heq => by
      obtain ⟨u, us, rfl⟩ := List.exists_cons_of_ne_nil hd.ne_nil
      simp only [List.cons_append, List.cons.injEq] at heq
      exact hd.arguments_ne_close (.inr rfl) us (by rw [heq.1]))]
    simpa using ih .rbracket [] rest f (.inr rfl) (by omega)
  refine ⟨f + 2, by simp, ?_⟩
  show Surface.atom (f + 1 + 1) (.sym .lbracket :: (ts ++ [Token.sym .rbracket]) ++ rest) =
    some (.array items, rest)
  rw [List.cons_append, List.append_assoc, List.singleton_append, Surface.atom_succ_array, hargs]
  rfl

theorem finds_objectEmpty :
    Finds (.tier .atom) [Token.sym .lbrace, .sym .rbrace] (.object []) := by
  intro rest f hs hf
  simp only [Tier.rank, List.length_cons, List.length_nil] at hf
  obtain ⟨f, rfl⟩ : ∃ f', f = f' + 1 := ⟨f - 1, by omega⟩
  exact ⟨f + 1, by simp, rfl⟩

theorem finds_object {ps : List (SurfaceKey × Surface)} (hd : Derives .pairs ts ps)
    (ih : Finds .pairs ts ps) :
    Finds (.tier .atom) (.sym .lbrace :: ts ++ [Token.sym .rbrace]) (.object ps) := by
  intro rest f hs hf
  simp only [Tier.rank, List.length_cons, List.length_append, List.length_nil] at hf
  obtain ⟨f, rfl⟩ : ∃ f', f = f' + 1 := ⟨f - 1, by omega⟩
  have hp : Surface.pairs f [] (ts ++ .sym .rbrace :: rest) = some (ps, rest) := by
    simpa using ih [] rest f (by omega)
  have hkey : ∀ vs, ts ++ .sym .rbrace :: rest ≠ .sym .rbrace :: vs := by
    obtain ⟨k, ws, rfl⟩ := hd.pairs_head
    intro vs heq
    cases k <;> simp [keyToken] at heq
  refine ⟨f + 1, by simp, ?_⟩
  show Surface.atom (f + 1) (.sym .lbrace :: (ts ++ [Token.sym .rbrace]) ++ rest) =
    some (.object ps, rest)
  rw [List.cons_append, List.append_assoc, List.singleton_append,
    Surface.atom_succ_object hkey, hp]
  rfl

theorem finds_argument (hd : Derives (.tier .or) ts e) (ih : Finds (.tier .or) ts e) :
    Finds .arguments ts [e] := by
  intro close acc rest f hclose hf
  obtain ⟨f, rfl⟩ : ∃ f', f = f' + 1 := ⟨f - 1, by omega⟩
  have he : Surface.expr f (ts ++ .sym close :: rest) = some (e, .sym close :: rest) :=
    ih.closed hd.ne_nil
      (stops_of_continues?_none (by rcases hclose with rfl | rfl <;> rfl) rest)
      (by simp only [Tier.rank]; omega)
  rw [Surface.argsMore_succ_close he (by rcases hclose with rfl | rfl <;> decide)]
  simp

theorem finds_arguments {es : List Surface} (hd : Derives (.tier .or) ts e)
    (ih : Finds (.tier .or) ts e) (ihs : Finds .arguments us es) :
    Finds .arguments (ts ++ .sym .comma :: us) (e :: es) := by
  intro close acc rest f hclose hf
  simp only [List.length_append, List.length_cons] at hf
  obtain ⟨f, rfl⟩ : ∃ f', f = f' + 1 := ⟨f - 1, by omega⟩
  have he : Surface.expr f (ts ++ .sym .comma :: (us ++ .sym close :: rest)) =
      some (e, .sym .comma :: (us ++ .sym close :: rest)) :=
    ih.closed hd.ne_nil (stops_of_continues?_none rfl _) (by simp only [Tier.rank]; omega)
  rw [List.append_assoc, List.cons_append, Surface.argsMore_succ_comma he,
    ihs close (e :: acc) rest f hclose (by omega)]
  simp

theorem finds_pair {k : SurfaceKey} (hd : Derives (.tier .or) ts e)
    (ih : Finds (.tier .or) ts e) : Finds .pairs (keyToken k :: .sym .colon :: ts) [(k, e)] := by
  intro acc rest f hf
  simp only [List.length_cons] at hf
  obtain ⟨f, rfl⟩ : ∃ f', f = f' + 1 := ⟨f - 1, by omega⟩
  have he : Surface.expr f (ts ++ .sym .rbrace :: rest) = some (e, .sym .rbrace :: rest) :=
    ih.closed hd.ne_nil (stops_of_continues?_none rfl rest) (by simp only [Tier.rank]; omega)
  rw [List.cons_append, List.cons_append, Surface.pairs_succ_close he]
  simp

theorem finds_pairs {k : SurfaceKey} {ps : List (SurfaceKey × Surface)}
    (hd : Derives (.tier .or) ts e) (ih : Finds (.tier .or) ts e) (ihs : Finds .pairs us ps) :
    Finds .pairs (keyToken k :: .sym .colon :: ts ++ .sym .comma :: us) ((k, e) :: ps) := by
  intro acc rest f hf
  simp only [List.length_cons, List.length_append] at hf
  obtain ⟨f, rfl⟩ : ∃ f', f = f' + 1 := ⟨f - 1, by omega⟩
  have he : Surface.expr f (ts ++ .sym .comma :: (us ++ .sym .rbrace :: rest)) =
      some (e, .sym .comma :: (us ++ .sym .rbrace :: rest)) :=
    ih.closed hd.ne_nil (stops_of_continues?_none rfl _) (by simp only [Tier.rank]; omega)
  simp only [List.cons_append, List.append_assoc]
  rw [Surface.pairs_succ_comma he, ihs ((k, e) :: acc) rest f (by omega)]
  simp

end Cases

theorem finds {r : Rule} {ts : List Token} {x : r.Tree} (h : Derives r ts x) : Finds r ts x := by
  induction h with
  | down hne hd ih =>
    rename_i t _ _
    by_cases ht : t.isChain = true
    · exact finds_down_chain ht hd.ne_nil ih
    · cases t with
      | or | and | comparison | sum | product => simp [Tier.isChain] at ht
      | power => exact finds_power_down hd.ne_nil ih
      | unary => exact finds_unary_down hd ih
      | primary => exact finds_primary_down hd ih
      | atom => exact absurd rfl hne
  | operator hc _ hr ihl ihr => exact finds_operator hc hr ihl ihr
  | power hl hr ihl ihr => exact finds_power hl hr ihl ihr
  | unaryOp hc hd ih => exact finds_unaryOp hc hd ih
  | member _ ih => exact finds_member ih
  | index _ hk iht ihk => exact finds_index hk iht ihk
  | callEmpty hn => exact finds_callEmpty hn
  | call hn hd ih => exact finds_call hn hd ih
  | number | string | template => exact finds_token fun _ _ => rfl
  | constant hm =>
    exact finds_token fun _ _ => by simp [Surface.atom, Surface.keyword?_eq_some_iff.2 hm]
  | var hn => exact finds_token fun _ _ => by simp [Surface.atom, Surface.keyword?_eq_none hn]
  | paren hd ih => exact finds_paren hd ih
  | arrayEmpty => exact finds_arrayEmpty
  | array hd ih => exact finds_array hd ih
  | objectEmpty => exact finds_objectEmpty
  | object hd ih => exact finds_object hd ih
  | argument hd ih => exact finds_argument hd ih
  | arguments hd _ ih ihs => exact finds_arguments hd ih ihs
  | pair hd ih => exact finds_pair hd ih
  | pairs hd _ ih ihs => exact finds_pairs hd ih ihs

end Grammar

namespace Surface

open Grammar

theorem parse?_of_sentence {ts : List Token} {s : Surface} (h : Sentence ts s) :
    parse? ts = some s := by
  have hp : expr (16 * (ts.length + 1)) ts = some (s, []) := by
    simpa [Tier.parse] using
      (finds h).closed (Derives.ne_nil h) (Stops.nil _) (by simp only [Tier.rank]; omega)
  simp [parse?, hp]

/-- **The parser accepts exactly the sentences of the grammar**, with the tree of their
derivation. -/
theorem parse?_eq_some_iff {ts : List Token} {s : Surface} : parse? ts = some s ↔ Sentence ts s :=
  ⟨sentence_of_parse?, parse?_of_sentence⟩

end Surface

namespace Grammar

theorem Sentence.unique {ts : List Token} {s s' : Surface} (h : Sentence ts s)
    (h' : Sentence ts s') : s = s' := by
  have := (Surface.parse?_of_sentence h).symm.trans (Surface.parse?_of_sentence h')
  simpa using this

end Grammar

end Templating
