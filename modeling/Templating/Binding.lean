import Templating.Document.Walk
/-!
# Bindings

A binding is a property of a document that holds a literal value or an expression, and
is resolved against a data context whenever its value is needed. Assigning to it
classifies what is assigned:

* `null` unsets it;
* a text becomes expression text (`classify`): `=expr` is an expression, any other text
  an interpolation template. Its result is final;
* a formula becomes the expression text `=` followed by the formula's text; a host
  function is kept to be called;
* any other value is a literal.

Resolving gives an outcome. An unset binding resolves to `null`. A literal, and the
result of a formula, that is not `null` is turned into a tree and walked
(`Document.walk`), so that its text leaves are resolved too; a host function is
evaluated with the default options, while its result is walked with the binding's own.

Two bindings are equal when they hold equal literals (loosely equal values), or the same
expression text from the same kind of assignment; host functions are equal to no other.
-/

namespace Templating

/-- What a binding holds. -/
inductive Held where
  /-- A literal value. -/
  | literal (v : Value)
  /-- Expression text assigned as text; its result is final. -/
  | text (source : Text)
  /-- Expression text of a formula; its result is walked. -/
  | formula (source : Text)
  /-- A host function's formula, with the expression text naming it. -/
  | host (source : Text) (f : Formula)

/-- What can be assigned to a binding: a value or a formula. -/
inductive Assigned where
  | value (v : Value)
  | formula (f : Formula)

namespace Assigned

/-- The name of the host type of what is assigned. -/
def typeName : Assigned → Text
  | .value v => v.typeName
  | .formula _ => Text.ofString "Expression"

end Assigned

/-- A binding: the options its expressions are evaluated with, and what it holds. -/
structure Binding where
  options : Options := Options.standard
  held : Option Held := none

namespace Binding

/-- What a binding holds after an assignment. -/
def classifyAssigned : Assigned → Option Held
  | .value .null => none
  | .value (.str s) => some (.text (Document.classify s))
  | .value v => some (.literal v)
  | .formula f =>
    if f.isHost then some (.host ([0x3D] ++ f.text) f) else some (.formula ([0x3D] ++ f.text))

/-- The binding after an assignment. -/
def assign (b : Binding) (a : Assigned) : Binding := { b with held := classifyAssigned a }

/-- The literal a binding holds; `null` for anything else. -/
def literal (b : Binding) : Value :=
  match b.held with
  | some (.literal v) => v
  | _ => .null

/-- The expression text a binding holds, if any. -/
def expressionText (b : Binding) : Option Text :=
  match b.held with
  | some (.text s) | some (.formula s) | some (.host s _) => some s
  | _ => none

/-- Whether anything is assigned. -/
def isSet (b : Binding) : Bool := b.held.isSome

/-- A result turned into a tree and walked in a frame at depth `frame`, unless it is
`null`; a result that nests too deeply to become a tree exhausts the stack. -/
def walked (b : Binding) (ctx : Value) (r : Outcome) (frame : Nat) : Except Abort Outcome :=
  match r with
  | .ok .null => .ok (.ok .null)
  | .ok v =>
    if v.overflowsAt frame then .error (.stack Stack.comparing) else
    .ok <$> Document.walk b.options ctx v.toTree frame
  | .error m => .ok (.error m)

/-- The outcome of a binding against a data context, resolved in a frame at depth
`frame`; a failure only for one that ends the request. Its expression is evaluated three
frames deeper, and its result walked two frames deeper. -/
def resolve (b : Binding) (ctx : Value) (frame : Nat) : Except Abort Outcome :=
  match b.held with
  | none => .ok (.ok .null)
  | some (.literal v) => b.walked ctx (.ok v) (frame + 2)
  | some (.text s) => b.options.evaluateText s ctx (frame + 3)
  | some (.formula s) => do b.walked ctx (← b.options.evaluateText s ctx (frame + 3)) (frame + 2)
  | some (.host _ f) => do b.walked ctx (← f.evaluate Options.standard ctx (frame + 3)) (frame + 2)

/-- The message of a resolution that failed with `error`. -/
def failureMessage (b : Binding) (error : Text) : Text :=
  Text.ofString "Failed to resolve '" ++ (b.expressionText.getD (Text.ofString "None")) ++
    Text.ofString "': " ++ error

/-- The serialised form: the expression text, or the literal. -/
def document (b : Binding) : Value :=
  match b.expressionText with
  | some s => .str s
  | none => b.literal

/-- Why a binding has no formula. -/
inductive FormulaFailure where
  /-- Its expression text does not parse. -/
  | parse (e : ParseError)
  /-- Its literal has an integer beyond the digit limit. -/
  | digits

/-- The formula of a binding, made in a frame at depth `frame`: its host function, its
expression text parsed (without the marker) one frame deeper, or its literal as a
constant (`null` when unset). -/
def toFormula (b : Binding) (frame : Nat) : Except FormulaFailure Formula :=
  match b.held with
  | some (.host _ f) => .ok f
  | some (.text s) | some (.formula s) => (Formula.parse (frame + 1) (dropMarker s)).mapError .parse
  | _ =>
    match Formula.constant b.literal with
    | some f => .ok f
    | none => .error .digits

/-- The short text of a binding: its expression text, or the short text of its literal
(empty for none); none when an integer in it is beyond the digit limit. -/
def display (b : Binding) : Option Text :=
  match b.expressionText with
  | some s => some s
  | none =>
    match b.literal with
    | .null => some []
    | v => v.display

/-- The binding written as a host literal: `BoundValue()` when unset, otherwise with its
serialised form. -/
def repr (b : Binding) : Option Text :=
  match b.held with
  | none => some (Text.ofString "BoundValue()")
  | some _ => (fun t => Text.ofString "BoundValue(" ++ t ++ Text.ofString ")") <$> b.document.repr

/-- Whether two bindings hold equal things. -/
def sameAs (a b : Binding) : Bool :=
  match a.held, b.held with
  | none, none => true
  | some (.literal v), some (.literal w) => Value.looseEq v w
  | some (.text s), some (.text t) => s = t
  | some (.formula s), some (.formula t) => s = t
  | _, _ => false

/-- How a binding is made from what is assigned first: any assignment, or one that must
be a text, a number (not a boolean), a boolean, anything but a text, or a formula. -/
inductive Maker where
  | any
  | text
  | number
  | boolean
  | tree
  | formula
deriving DecidableEq

/-- The message when a maker refuses what is assigned, if it does. -/
def Maker.refusal (m : Maker) (a : Assigned) : Option Text :=
  let got (fn what : String) :=
    some (Text.ofString (fn ++ " expects " ++ what ++ ", got ") ++ a.typeName)
  match m, a with
  | .any, _ => none
  | .text, .value (.str _) => none
  | .text, _ => got "from_text" "a string"
  | .number, .value (.int _) | .number, .value (.float _) => none
  | .number, _ => got "from_number" "a number"
  | .boolean, .value (.bool _) => none
  | .boolean, _ => got "from_boolean" "a bool"
  | .tree, .value (.str _) => some (Text.ofString "from_tree expects a structured value, got a string")
  | .tree, _ => none
  | .formula, .formula _ => none
  | .formula, _ => got "from_expression" "an Expression"

/-- A binding with options `o` made from an assignment; the refusal's message when the
maker refuses it. -/
def make (m : Maker) (o : Options) (a : Assigned) : Except Text Binding :=
  match m.refusal a with
  | some msg => .error msg
  | none => .ok (({ options := o } : Binding).assign a)

end Binding

mutual

/-- A value as a model framework dumps it into plain data: data-class records and models
become objects of their dumped fields, containers are dumped item by item, and
attribute-class records and scalars are kept. -/
def Value.dumped : Value → Value
  | .list xs => .list (dumpedItems xs)
  | .tuple xs => .tuple (dumpedItems xs)
  | .object es => .object (dumpedEntries es)
  | .record .attrs id fs => .record .attrs id fs
  | .record _ _ fs => .object (dumpedEntries fs)
  | v => v

/-- `Value.dumped` on the items of a list. -/
def dumpedItems : List Value → List Value
  | [] => []
  | x :: xs => x.dumped :: dumpedItems xs

/-- `Value.dumped` on the values of entries. -/
def dumpedEntries : List (Text × Value) → List (Text × Value)
  | [] => []
  | (k, x) :: es => (k, x.dumped) :: dumpedEntries es

end

end Templating
