import Templating.Eval.Builtin
/-!
# Evaluating expressions

`Expr.eval o ctx d e` computes the value of an expression against a data context `ctx`,
left to right, stopping at the first failure:

* literals are themselves; arrays and objects evaluate their items in order, a repeated
  object key keeping its first place and its last value;
* a name is a property of the context, a member a property of its target, and an index
  an item of its target (strict or not as `o.strictIndex` says); a method read from a
  target that is a place in the context (`Expr.place?`) remembers that place;
* when a name or a chain of members (a *path* such as `a.b.c`) reads `null`, and the
  options carry a substitution, the substitution's value for the path is read instead;
* a call evaluates every argument, then applies the builtin;
* `if` evaluates its test and then one branch only; `&&` and `||` stop at the first
  operand that decides them, and give booleans;
* a template joins its literal parts with the interpolation texts of its expressions.

Every node is evaluated in a frame of the host's stack: an operand one frame below its
node, the arguments of a call and the items of an array or object two frames below (a
call applies its builtin one frame below), and the parts of a template three frames
below, where the host joins them. Builtins, operators and texts that nest deeply
can exhaust the stack from there.
-/

namespace Templating

/-- How expressions read their context. -/
structure Options where
  /-- Whether an index outside a sequence fails, rather than reading `null`. -/
  strictIndex : Bool := true
  /-- What a path that reads `null` reads instead: the host's value for the path, or the
  message of its failure. -/
  substitute : Option (Text → Except Text Value) := none

namespace Options

/-- The default options: strict indexes and no substitution. -/
def standard : Options := {}

/-- The value a path reads when it has read `v`: the substitution's value when `v` is
`null` and there is a path and a substitution. -/
def fill (o : Options) (path : Option Text) (v : Value) : Except EvalError Value :=
  match v, path, o.substitute with
  | .null, some p, some f => (f p).mapError .host
  | v, _, _ => .ok v

end Options

namespace Expr

mutual

/-- The value of an expression whose node is evaluated in a frame at depth `frame`. -/
def eval (o : Options) (ctx : Value) (frame : Nat) : Expr → Except EvalError Value
  | .lit v => .ok v
  | .var n => o.fill (some n) (ctx.property n)
  | .member t n => do
    let v ← eval o ctx (frame + 1) t
    o.fill (Expr.member t n).path ((v.property n).placed t.place?)
  | .index t k => do
    let v ← eval o ctx (frame + 1) t
    let i ← eval o ctx (frame + 1) k
    (·.placed t.place?) <$> Value.item o.strictIndex v i
  | .call f args => do
    let vs ← evalList o ctx (frame + 2) args
    Builtin.apply (frame + 1) f vs
  | .cond c a b => do
    let test ← eval o ctx (frame + 1) c
    if test.isTrue then eval o ctx (frame + 1) a else eval o ctx (frame + 1) b
  | .array items => .list <$> evalList o ctx (frame + 2) items
  | .object fields =>
    (fun ps => .object (Entries.ofPairs ps)) <$> evalFields o ctx (frame + 2) fields
  | .template parts => .str <$> evalParts o ctx (frame + 3) parts
  | .not e => (fun v => .bool !v.isTrue) <$> eval o ctx (frame + 1) e
  | .negate e => do Value.signed frame (-1) (← eval o ctx (frame + 1) e)
  | .plus e => do Value.signed frame 1 (← eval o ctx (frame + 1) e)
  | .and l r => do
    let a ← eval o ctx (frame + 1) l
    if a.isTrue then (fun b => .bool b.isTrue) <$> eval o ctx (frame + 1) r
    else pure (.bool false)
  | .or l r => do
    let a ← eval o ctx (frame + 1) l
    if a.isTrue then pure (.bool true)
    else (fun b => .bool b.isTrue) <$> eval o ctx (frame + 1) r
  | .binary op l r => do
    let a ← eval o ctx (frame + 1) l
    let b ← eval o ctx (frame + 1) r
    Value.binary (frame + 1) op a b

/-- The values of expressions, left to right, each in a frame at depth `frame`. -/
def evalList (o : Options) (ctx : Value) (frame : Nat) :
    List Expr → Except EvalError (List Value)
  | [] => .ok []
  | e :: es => do
    let v ← eval o ctx frame e
    let vs ← evalList o ctx frame es
    pure (v :: vs)

/-- The keys with the values of object fields, left to right, each value in a frame at
depth `frame`. -/
def evalFields (o : Options) (ctx : Value) (frame : Nat) :
    List (Text × Expr) → Except EvalError (List (Text × Value))
  | [] => .ok []
  | (k, e) :: fs => do
    let v ← eval o ctx frame e
    let vs ← evalFields o ctx frame fs
    pure ((k, v) :: vs)

/-- The text of template parts, left to right, each expression evaluated and shown in a
frame at depth `frame`. -/
def evalParts (o : Options) (ctx : Value) (frame : Nat) :
    List (Text ⊕ Expr) → Except EvalError Text
  | [] => .ok []
  | .inl t :: ps => (t ++ ·) <$> evalParts o ctx frame ps
  | .inr e :: ps => do
    let v ← eval o ctx frame e
    let t ← v.shownText frame
    let rest ← evalParts o ctx frame ps
    pure (t ++ rest)

end

end Expr

end Templating
