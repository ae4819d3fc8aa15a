import Templating.Expr.Basic
import Templating.Number.Arith
import Templating.Number.FloatText
import Templating.Number.IntText
import Templating.Value.Show
import Templating.Value.Tree
import Templating.Json.Read
import Templating.Text.Quoted
import Templating.Abort
/-!
# Why evaluation fails

An evaluation failure is a cause (`EvalError`) holding the values it is about; its text
is computed from them by `EvalError.message`. Values in messages are shown in one of
three ways:

* `shown v`: the quoted form of the value's interpolation text (`Value.toText`);
* `repr v`: the value written as a literal (`Value.repr`);
* numbers by their plain text.

Showing an integer beyond the digit limit fails, and then the message is the digit
limit's own (`limitMessage`): the failure to show the value replaces the failure it was
to describe. Showing a value that nests too deeply for the host's stack ends the request
(`showing`).
-/

namespace Templating

/-- The text of a number: integers in decimal (none beyond the digit limit), doubles as
shortest text. -/
def Num.toText? : Num → Option Text
  | .int n => Int.toText? n
  | .float x => some x.toText

/-- What a builtin expected of an argument it was given. -/
inductive Expectation where
  | number
  | text
  | collection
  | array
  | textOrArray
deriving DecidableEq

/-- The words for an expectation. -/
def Expectation.words : Expectation → Text
  | .number => Text.ofString "a number"
  | .text => Text.ofString "a string"
  | .collection => Text.ofString "a string, array or object"
  | .array => Text.ofString "an array"
  | .textOrArray => Text.ofString "a string or array"

/-- Why evaluation fails. -/
inductive EvalError where
  /-- A unary `-` or `+` is applied to a value that is not a number. -/
  | unaryOperand (v : Value)
  /-- `+` is applied to values that neither add, join nor concatenate. -/
  | cannotAdd (l r : Value)
  /-- An arithmetic operator is applied to values that are not both numbers. -/
  | operands (op : BinOp) (l r : Value)
  /-- An order operator is applied to values of no common order. -/
  | incomparable (op : BinOp) (l r : Value)
  /-- `/` or `%` is applied with a zero divisor. -/
  | divideByZero
  /-- An integer power would have more bits than `maxPowerBits`. -/
  | powerTooLarge (base exp : Int)
  /-- A step of number arithmetic fails. -/
  | arith (e : ArithError)
  /-- A value is indexed by something other than an integer or a text. -/
  | indexType (index : Value)
  /-- A value that is not a sequence is indexed by an integer. -/
  | notIndexable (target : Value)
  /-- An integer index lies outside a sequence. -/
  | indexRange (index : Int) (length : Nat)
  /-- A builtin is given an argument of the wrong kind. -/
  | expects (fn : Builtin) (what : Expectation) (v : Value)
  /-- `max` or `min` is given no numbers. -/
  | noNumbers (fn : Builtin)
  /-- The start of `substring` lies outside the text. -/
  | substringStart (start : Num)
  /-- The length of `substring` reaches outside the text. -/
  | substringLength (count : Num)
  /-- A slice bound is not an integer. -/
  | sliceIndex
  /-- `int` or `float` is given a boolean. -/
  | booleanConversion (fn : Builtin)
  /-- A text is not an integer literal. -/
  | invalidInt (s : Text)
  /-- A text is not a double literal. -/
  | invalidFloat (s : Text)
  /-- An integer is too long to be shown. -/
  | intDigits
  /-- A text holds an integer of `count` digits, too long to be read. -/
  | readDigits (count : Nat)
  /-- A text given to `json` is not JSON. -/
  | json (e : Json.ReadError)
  /-- A builtin is called with a number of arguments it does not take. -/
  | arity
  /-- A function of the host fails with a message. -/
  | host (message : Text)
  /-- A failure that ends the request (`Abort`), such as the host running out of stack. -/
  | abort (a : Abort)

namespace EvalError

/-- The quoted interpolation text of a value. -/
def shown (v : Value) : Option Text := v.toText.map Text.quote

/-- The symbol of an operator in quotes. -/
def opQuoted (op : BinOp) : Text := [0x27] ++ op.symbol ++ [0x27]

/-- The message, or none when showing a value in it fails. -/
def message? : EvalError → Option Text
  | .unaryOperand v => (Text.ofString "Unary operator expects a number, got " ++ ·) <$> shown v
  | .cannotAdd l r => do
    let a ← shown l
    let b ← shown r
    pure (Text.ofString "Cannot add " ++ a ++ Text.ofString " and " ++ b)
  | .operands op l r => do
    let a ← shown l
    let b ← shown r
    pure (Text.ofString "Operator " ++ opQuoted op ++ Text.ofString " expects numbers, got " ++ a ++
      Text.ofString " and " ++ b)
  | .incomparable op l r => do
    let a ← shown l
    let b ← shown r
    pure (Text.ofString "Operator " ++ opQuoted op ++ Text.ofString " cannot compare " ++ a ++
      Text.ofString " and " ++ b)
  | .divideByZero => some (Text.ofString "Cannot divide by 0")
  | .powerTooLarge base exp => do
    let a ← Int.toText? base
    let b ← Int.toText? exp
    pure (Text.ofString "Result of " ++ a ++ Text.ofString " ^ " ++ b ++ Text.ofString " is too large")
  | .arith e => some e.message
  | .indexType v =>
    (Text.ofString "Index must be an integer or a string, got " ++ ·) <$> v.repr
  | .notIndexable v => some (Text.ofString "Cannot index into " ++ v.typeName)
  | .indexRange i n => do
    let a ← Int.toText? i
    pure (Text.ofString "Index " ++ a ++ Text.ofString " is out of range for length " ++ Text.decimal n)
  | .expects fn what v => do
    let s ← shown v
    pure (fn.name ++ Text.ofString " expects " ++ what.words ++ Text.ofString ", got " ++ s)
  | .noNumbers fn => some (fn.name ++ Text.ofString " expects at least one number")
  | .substringStart s => do
    let a ← s.toText?
    pure (Text.ofString "substring start " ++ a ++ Text.ofString " is out of range")
  | .substringLength c => do
    let a ← c.toText?
    pure (Text.ofString "substring length " ++ a ++ Text.ofString " is out of range")
  | .sliceIndex =>
    some (Text.ofString "slice indices must be integers or None or have an __index__ method")
  | .booleanConversion fn =>
    some (fn.name ++ Text.ofString " expects a number or numeric string, got a boolean")
  | .invalidInt s =>
    some (Text.ofString "invalid literal for int() with base 10: " ++ (Text.quote s).take 200)
  | .invalidFloat s => some (Text.ofString "could not convert string to float: " ++ Text.quote s)
  | .intDigits => some limitMessage
  | .readDigits n => some (readLimitMessage n)
  | .json e => some e.message
  | .arity => some (Text.ofString "wrong number of arguments")
  | .host m => some m
  | .abort a => some a.message

/-- The message of a failure. -/
def message (e : EvalError) : Text := e.message?.getD limitMessage

/-- The failure `e`, whose message shows the values `vs`, raised where their texts are
computed in a frame at depth `frame`. The texts are computed first, in order: a value
that nests too deeply for the stack ends the request instead, and a value without a text
stops the computing, leaving `e`, whose message is then the digit limit's. -/
def showing (frame : Nat) : List Value → EvalError → EvalError
  | [], e => e
  | v :: vs, e =>
    if v.overflowsAt (frame + 1) then .abort (.stack Stack.comparing)
    else if v.toText.isNone then e
    else showing frame vs e

end EvalError

end Templating
