import Templating.Value.Basic
import Templating.Number.IntText
/-!
# Expressions

The abstract syntax of the expression language. An expression reads names from a data
context, builds values, calls builtin functions, and combines values with operators.

* Literals, arrays and objects build values.
* Names, members (`a.b`) and indexes (`a[i]`) read from the context.
* `if(c, a, b)` evaluates one branch only; `&&` and `||` stop early.
* `!e`, `-e` and `+e` are the unary operators.
* A template joins literal text with the text of embedded expressions.
* Binary operators, from the loosest: comparisons `== != < <= > >=`, then `+ -`, then
  `* / %`, then `^` (to the right).

Main statements:

    (member (var a) b).path = some "a.b"                        (path_member_var)
-/

namespace Templating

/-- A binary operator. -/
inductive BinOp where
  | add | sub | mul | div | mod | pow
  | eq | ne | lt | le | gt | ge
deriving DecidableEq

/-- The symbol of a binary operator. -/
def BinOp.symbol : BinOp → Text
  | .add => Text.ofString "+"
  | .sub => Text.ofString "-"
  | .mul => Text.ofString "*"
  | .div => Text.ofString "/"
  | .mod => Text.ofString "%"
  | .pow => Text.ofString "^"
  | .eq => Text.ofString "=="
  | .ne => Text.ofString "!="
  | .lt => Text.ofString "<"
  | .le => Text.ofString "<="
  | .gt => Text.ofString ">"
  | .ge => Text.ofString ">="

/-- A builtin function. -/
inductive Builtin where
  | length | concat | toUpper | toLower | trim | replace | substring
  | startsWith | endsWith | split
  | count | join | contains | indexOf | first | last | createArray
  | exists | coalesce | not | string | int | float | bool | json
  | max | min | sum | abs | round
deriving DecidableEq, Inhabited

namespace Builtin

/-- Every builtin. -/
def all : List Builtin :=
  [.length, .concat, .toUpper, .toLower, .trim, .replace, .substring, .startsWith, .endsWith,
   .split, .count, .join, .contains, .indexOf, .first, .last, .createArray, .exists,
   .coalesce, .not, .string, .int, .float, .bool, .json, .max, .min, .sum, .abs, .round]

/-- The name a builtin is called by. -/
def name : Builtin → Text
  | .length => Text.ofString "length"
  | .concat => Text.ofString "concat"
  | .toUpper => Text.ofString "toUpper"
  | .toLower => Text.ofString "toLower"
  | .trim => Text.ofString "trim"
  | .replace => Text.ofString "replace"
  | .substring => Text.ofString "substring"
  | .startsWith => Text.ofString "startsWith"
  | .endsWith => Text.ofString "endsWith"
  | .split => Text.ofString "split"
  | .count => Text.ofString "count"
  | .join => Text.ofString "join"
  | .contains => Text.ofString "contains"
  | .indexOf => Text.ofString "indexOf"
  | .first => Text.ofString "first"
  | .last => Text.ofString "last"
  | .createArray => Text.ofString "createArray"
  | .exists => Text.ofString "exists"
  | .coalesce => Text.ofString "coalesce"
  | .not => Text.ofString "not"
  | .string => Text.ofString "string"
  | .int => Text.ofString "int"
  | .float => Text.ofString "float"
  | .bool => Text.ofString "bool"
  | .json => Text.ofString "json"
  | .max => Text.ofString "max"
  | .min => Text.ofString "min"
  | .sum => Text.ofString "sum"
  | .abs => Text.ofString "abs"
  | .round => Text.ofString "round"

/-- The builtin called by a name. -/
def ofName? (n : Text) : Option Builtin := all.find? (fun b => b.name = n)

/-- The least and greatest number of arguments a builtin takes; none for no bound. -/
def arity : Builtin → Nat × Option Nat
  | .concat | .createArray | .coalesce | .max | .min => (0, none)
  | .replace => (3, some 3)
  | .substring => (2, some 3)
  | .startsWith | .endsWith | .contains | .indexOf => (2, some 2)
  | .split | .join | .round => (1, some 2)
  | _ => (1, some 1)

/-- Whether a builtin takes `n` arguments. -/
def accepts (b : Builtin) (n : Nat) : Bool :=
  b.arity.1 ≤ n && (b.arity.2.all (n ≤ ·))

end Builtin

/-- An expression. -/
inductive Expr where
  /-- A literal value. -/
  | lit (v : Value)
  /-- A name read from the context. -/
  | var (name : Text)
  /-- A named property of a value. -/
  | member (target : Expr) (name : Text)
  /-- An item or property of a value, by position or key. -/
  | index (target key : Expr)
  /-- A builtin applied to arguments. -/
  | call (fn : Builtin) (args : List Expr)
  /-- `if(test, yes, no)`. -/
  | cond (test yes no : Expr)
  /-- An array literal. -/
  | array (items : List Expr)
  /-- An object literal. -/
  | object (fields : List (Text × Expr))
  /-- A template: literal texts (`inl`) and embedded expressions (`inr`). -/
  | template (parts : List (Text ⊕ Expr))
  /-- Logical negation. -/
  | not (e : Expr)
  /-- Arithmetic negation (`-e`). -/
  | negate (e : Expr)
  /-- Unary plus (`+e`), which checks for a number. -/
  | plus (e : Expr)
  /-- Conjunction, stopping at the first false operand. -/
  | and (l r : Expr)
  /-- Disjunction, stopping at the first true operand. -/
  | or (l r : Expr)
  /-- A binary operator. -/
  | binary (op : BinOp) (l r : Expr)
deriving Inhabited

namespace Expr

/-- The accessor path of a chain of names, `a.b.c`; none for anything else. -/
def path : Expr → Option Text
  | .var n => some n
  | .member t n => (path t).map (fun p => p ++ [0x2E] ++ n)
  | _ => none

/-- Where an expression reads from the context when all it does is read: a name followed
by members, constant keys and constant positions (a position step starts with `[`, which
no name does). Two reads of one place give the same host object. -/
def place? : Expr → Option (List Text)
  | .var n => some [n]
  | .member t n => (place? t).map (· ++ [n])
  | .index t (.lit (.str k)) => (place? t).map (· ++ [k])
  | .index t (.lit (.int i)) => (place? t).map (· ++ [0x5B :: Int.toTextUnbounded i])
  | _ => none

theorem path_member_var (a b : Text) :
    (member (var a) b).path = some (a ++ [0x2E] ++ b) := rfl

end Expr

end Templating
