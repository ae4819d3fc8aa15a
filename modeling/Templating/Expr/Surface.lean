import Templating.Expr.Token
import Templating.Expr.Basic
/-!
# The concrete syntax tree

Tokens are parsed into a concrete syntax tree (`Surface`) that still holds the raw text
of numbers, strings and templates, and names where calls stand. Turning it into an
expression (`Surface.build`) is a separate pass, so that every syntax error is found
before any of the checks the build makes.

The grammar, from the loosest level:

    expr       := and ("||" and)*
    and        := comparison ("&&" comparison)*
    comparison := sum (("==" | "!=" | "<" | "<=" | ">" | ">=") sum)*
    sum        := product (("+" | "-") product)*
    product    := power (("*" | "/" | "%") power)*
    power      := unary ("^" power)?
    unary      := ("!" | "-" | "+") unary | primary
    primary    := (NAME "(" args? ")" | atom) ("." NAME | "[" expr "]")*
    atom       := NUMBER | STRING | TEMPLATE | true | false | null | NAME
                | "(" expr ")" | "[" args? "]" | "{" pairs? "}"
    args       := expr ("," expr)*
    pairs      := (NAME | STRING) ":" expr ("," (NAME | STRING) ":" expr)*

`true`, `false` and `null` are keywords only where an atom stands; after a dot and as
object keys they are names. A keyword is never called.

Each parsing function takes fuel that counts the calls along the current chain; every
atom takes a token, so a chain is never longer than a dozen calls per token, and the fuel
given from the token count is never used up.
-/

namespace Templating

/-- The key of an object literal entry: a name, or a string as written. -/
inductive SurfaceKey where
  | name (n : Text)
  | string (body : Text)
deriving DecidableEq

/-- A concrete syntax tree. -/
inductive Surface where
  | number (text : Text)
  | string (body : Text)
  | template (body : Text)
  | constant (v : Value)
  | name (n : Text)
  | member (target : Surface) (name : Text)
  | index (target key : Surface)
  | call (name : Text) (args : List Surface)
  | array (items : List Surface)
  | object (pairs : List (SurfaceKey × Surface))
  | not (e : Surface)
  | negate (e : Surface)
  | plus (e : Surface)
  | and (l r : Surface)
  | or (l r : Surface)
  | binary (op : BinOp) (l r : Surface)
deriving Inhabited

namespace Surface

/-- A parse result: the tree and the tokens after it. -/
abbrev Result := Option (Surface × List Token)

/-- The keyword constants. -/
def keyword? (n : Text) : Option Value :=
  if n = Text.ofString "true" then some (.bool true)
  else if n = Text.ofString "false" then some (.bool false)
  else if n = Text.ofString "null" then some .null
  else none

/-- The comparison operator of a symbol. -/
def comparisonOp? : Symbol → Option BinOp
  | .eqEq => some .eq
  | .bangEq => some .ne
  | .lt => some .lt
  | .le => some .le
  | .gt => some .gt
  | .ge => some .ge
  | _ => none

/-- The additive operator of a symbol. -/
def sumOp? : Symbol → Option BinOp
  | .plus => some .add
  | .minus => some .sub
  | _ => none

/-- The multiplicative operator of a symbol. -/
def productOp? : Symbol → Option BinOp
  | .star => some .mul
  | .slash => some .div
  | .percent => some .mod
  | _ => none

mutual

/-- `expr := and ("||" and)*` -/
def expr : Nat → List Token → Result
  | 0, _ => none
  | f + 1, ts => do
    let (l, ts) ← conj f ts
    exprRest f l ts

/-- The `("||" and)*` loop. -/
def exprRest : Nat → Surface → List Token → Result
  | 0, _, _ => none
  | f + 1, l, .sym .orOr :: ts => do
    let (r, ts) ← conj f ts
    exprRest f (.or l r) ts
  | _ + 1, l, ts => some (l, ts)

/-- `and := comparison ("&&" comparison)*` -/
def conj : Nat → List Token → Result
  | 0, _ => none
  | f + 1, ts => do
    let (l, ts) ← comparison f ts
    conjRest f l ts

/-- The `("&&" comparison)*` loop. -/
def conjRest : Nat → Surface → List Token → Result
  | 0, _, _ => none
  | f + 1, l, .sym .andAnd :: ts => do
    let (r, ts) ← comparison f ts
    conjRest f (.and l r) ts
  | _ + 1, l, ts => some (l, ts)

/-- `comparison := sum (op sum)*` -/
def comparison : Nat → List Token → Result
  | 0, _ => none
  | f + 1, ts => do
    let (l, ts) ← sum f ts
    comparisonRest f l ts

/-- The comparison loop. -/
def comparisonRest : Nat → Surface → List Token → Result
  | 0, _, _ => none
  | f + 1, l, .sym s :: ts =>
    match comparisonOp? s with
    | some op => do
      let (r, ts) ← sum f ts
      comparisonRest f (.binary op l r) ts
    | none => some (l, .sym s :: ts)
  | _ + 1, l, ts => some (l, ts)

/-- `sum := product (("+" | "-") product)*` -/
def sum : Nat → List Token → Result
  | 0, _ => none
  | f + 1, ts => do
    let (l, ts) ← product f ts
    sumRest f l ts

/-- The additive loop. -/
def sumRest : Nat → Surface → List Token → Result
  | 0, _, _ => none
  | f + 1, l, .sym s :: ts =>
    match sumOp? s with
    | some op => do
      let (r, ts) ← product f ts
      sumRest f (.binary op l r) ts
    | none => some (l, .sym s :: ts)
  | _ + 1, l, ts => some (l, ts)

/-- `product := power (("*" | "/" | "%") power)*` -/
def product : Nat → List Token → Result
  | 0, _ => none
  | f + 1, ts => do
    let (l, ts) ← power f ts
    productRest f l ts

/-- The multiplicative loop. -/
def productRest : Nat → Surface → List Token → Result
  | 0, _, _ => none
  | f + 1, l, .sym s :: ts =>
    match productOp? s with
    | some op => do
      let (r, ts) ← power f ts
      productRest f (.binary op l r) ts
    | none => some (l, .sym s :: ts)
  | _ + 1, l, ts => some (l, ts)

/-- `power := unary ("^" power)?` -/
def power : Nat → List Token → Result
  | 0, _ => none
  | f + 1, ts => do
    let (l, ts) ← unary f ts
    match ts with
    | .sym .caret :: ts => do
      let (r, ts) ← power f ts
      pure (.binary .pow l r, ts)
    | _ => pure (l, ts)

/-- `unary := ("!" | "-" | "+") unary | primary` -/
def unary : Nat → List Token → Result
  | 0, _ => none
  | f + 1, .sym .bang :: ts => do
    let (e, ts) ← unary f ts
    pure (.not e, ts)
  | f + 1, .sym .minus :: ts => do
    let (e, ts) ← unary f ts
    pure (.negate e, ts)
  | f + 1, .sym .plus :: ts => do
    let (e, ts) ← unary f ts
    pure (.plus e, ts)
  | f + 1, ts => primary f ts

/-- `primary := (NAME "(" args? ")" | atom) trailer*` -/
def primary : Nat → List Token → Result
  | 0, _ => none
  | f + 1, .name n :: .sym .lparen :: ts =>
    if (keyword? n).isSome then none else do
      let (args, ts) ← argsUntil f .rparen ts
      trailers f (.call n args) ts
  | f + 1, ts => do
    let (a, ts) ← atom f ts
    trailers f a ts

/-- The trailers after a primary: members and indexes. -/
def trailers : Nat → Surface → List Token → Result
  | 0, _, _ => none
  | f + 1, t, .sym .dot :: .name n :: ts => trailers f (.member t n) ts
  | _ + 1, _, .sym .dot :: _ => none
  | f + 1, t, .sym .lbracket :: ts => do
    let (k, ts) ← expr f ts
    match ts with
    | .sym .rbracket :: ts => trailers f (.index t k) ts
    | _ => none
  | _ + 1, t, ts => some (t, ts)

/-- An atom. -/
def atom : Nat → List Token → Result
  | 0, _ => none
  | _ + 1, .number n :: ts => some (.number n, ts)
  | _ + 1, .string b :: ts => some (.string b, ts)
  | _ + 1, .template b :: ts => some (.template b, ts)
  | _ + 1, .name n :: ts =>
    match keyword? n with
    | some v => some (.constant v, ts)
    | none => some (.name n, ts)
  | f + 1, .sym .lparen :: ts => do
    let (e, ts) ← expr f ts
    match ts with
    | .sym .rparen :: ts => some (e, ts)
    | _ => none
  | f + 1, .sym .lbracket :: ts => do
    let (items, ts) ← argsUntil f .rbracket ts
    pure (.array items, ts)
  | f + 1, .sym .lbrace :: ts =>
    match ts with
    | .sym .rbrace :: ts => some (.object [], ts)
    | _ => do
      let (pairs, ts) ← pairs f [] ts
      pure (.object pairs, ts)
  | _ + 1, _ => none

/-- Arguments or items up to the closing symbol `close`, which may come at once. -/
def argsUntil : Nat → Symbol → List Token → Option (List Surface × List Token)
  | 0, _, _ => none
  | f + 1, close, ts =>
    match ts with
    | .sym s :: rest => if s = close then some ([], rest) else argsMore f close [] ts
    | _ => argsMore f close [] ts

/-- Arguments after the first, collected in reverse in `acc`. -/
def argsMore : Nat → Symbol → List Surface → List Token → Option (List Surface × List Token)
  | 0, _, _, _ => none
  | f + 1, close, acc, ts => do
    let (e, ts) ← expr f ts
    match ts with
    | .sym .comma :: ts => argsMore f close (e :: acc) ts
    | .sym s :: ts => if s = close then some ((e :: acc).reverse, ts) else none
    | _ => none

/-- Object entries up to the closing brace, collected in reverse in `acc`. -/
def pairs : Nat → List (SurfaceKey × Surface) → List Token → Option (List (SurfaceKey × Surface) × List Token)
  | 0, _, _ => none
  | f + 1, acc, ts =>
    let key : Option (SurfaceKey × List Token) := match ts with
      | .name n :: .sym .colon :: ts => some (.name n, ts)
      | .string b :: .sym .colon :: ts => some (.string b, ts)
      | _ => none
    match key with
    | none => none
    | some (k, ts) => do
      let (e, ts) ← expr f ts
      match ts with
      | .sym .comma :: ts => pairs f ((k, e) :: acc) ts
      | .sym .rbrace :: ts => some (((k, e) :: acc).reverse, ts)
      | _ => none

end

/-- The tree of a whole token list; none on a syntax error. -/
def parse? (ts : List Token) : Option Surface :=
  match expr (16 * (ts.length + 1)) ts with
  | some (e, []) => some e
  | _ => none

end Surface

end Templating
