import Templating.Eval.Evaluate
import Templating.Expr.Parse
import Templating.Json.Write
/-!
# Formulas

A formula is something that computes a value from a data context, together with the
text that names it:

* a parsed expression, named by its text;
* a constant, named by its JSON text (items separated by `", "`, keys by `": "`);
* a function of the host, named `<name>` by the host function's name; its name does not
  parse.

Evaluating a formula gives an *outcome*: a value, or the message of why there is none,
which names the formula's text (`Cannot evaluate expression '…': …`). A failure that ends
the request (`Abort`) is no outcome: it is returned as a failure of its own.

Expression text, as documents hold it, starts with the marker `=`; `Options.evaluateText`
drops one marker, parses the rest and evaluates it. A text that does not parse gives the
parse failure's message as its outcome, again except for a failure that ends the request.
Parsing and evaluating both start at a depth of the host's stack (see `Stack`).
-/

namespace Templating

/-- The result of resolving: a value, or the message of why there is none. -/
abbrev Outcome := Except Text Value

/-- What a formula computes from. -/
inductive FormulaBody where
  /-- A parsed expression. -/
  | expr (e : Expr)
  /-- A constant value. -/
  | constant (v : Value)
  /-- A function of the host, from the data context to a value or a failure message. -/
  | host (fn : Value → Except Text Value)

/-- A formula: what it computes from, and its text. -/
structure Formula where
  text : Text
  body : FormulaBody

namespace Formula

/-- The formula of expression text (without the marker), parsed in a frame at depth
`frame`; the expression itself is parsed one frame deeper. -/
def parse (frame : Nat) (text : Text) : Except ParseError Formula :=
  (fun e => ⟨text, .expr e⟩) <$> Expr.parse (frame + 1) text

/-- The formula of a constant; none when its JSON text has an integer beyond the digit
limit. -/
def constant (v : Value) : Option Formula :=
  (fun t => ⟨t, .constant v⟩) <$> Json.write Json.Layout.spaced v.toTree

/-- The formula of a host function called `name`. -/
def host (name : Text) (fn : Value → Except Text Value) : Formula :=
  ⟨[0x3C] ++ name ++ [0x3E], .host fn⟩

/-- Whether a formula is a host function. -/
def isHost (f : Formula) : Bool :=
  match f.body with
  | .host _ => true
  | _ => false

/-- The message of a failed evaluation of the formula with text `text`. -/
def failure (text reason : Text) : Text :=
  Text.ofString "Cannot evaluate expression '" ++ text ++ Text.ofString "': " ++ reason

/-- The outcome of a formula against a data context, evaluated in a frame at depth
`frame`; a failure only for one that ends the request. An expression's root is evaluated
two frames deeper. -/
def evaluate (f : Formula) (o : Options) (ctx : Value) (frame : Nat) : Except Abort Outcome :=
  match f.body with
  | .expr e =>
    match e.eval o ctx (frame + 2) with
    | .ok v => .ok (.ok v)
    | .error (.abort a) => .error a
    | .error err => .ok (.error (failure f.text err.message))
  | .constant v => .ok (.ok v)
  | .host fn => .ok ((fn ctx).mapError (failure f.text))

/-- The formula written as a host literal: `Expression('text')`. -/
def repr (f : Formula) : Text :=
  Text.ofString "Expression(" ++ Text.quote f.text ++ Text.ofString ")"

end Formula

/-- The text after one leading marker, if there is one. -/
def dropMarker : Text → Text
  | 0x3D :: rest => rest
  | t => t

/-- The outcome of expression text against a data context, evaluated in a frame at depth
`frame`; a failure only for one that ends the request. The text is parsed two frames
deeper, and the formula evaluated one frame deeper. -/
def Options.evaluateText (o : Options) (text : Text) (ctx : Value) (frame : Nat) :
    Except Abort Outcome :=
  match Formula.parse (frame + 2) (dropMarker text) with
  | .ok f => f.evaluate o ctx (frame + 1)
  | .error (.abort a) => .error a
  | .error e => .ok (.error e.message)

end Templating
