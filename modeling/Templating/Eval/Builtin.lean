import Templating.Eval.Operator
import Templating.Eval.Access
import Templating.Text.Case
import Templating.Text.Blank
import Templating.Number.Reading
/-!
# Builtin functions

Each builtin receives its evaluated arguments. A call with a number of arguments the
builtin does not take fails before the builtin looks at them; optional arguments take
their defaults when absent (`split` the empty text, `join` a comma, `round` zero digits).

Texts:
`length` and `count` measure a text (in code points), list, tuple or object;
`concat` concatenates lists when every argument is a list and joins interpolation texts
otherwise; `toUpper`, `toLower` and `trim` map the interpolation text by full case
mapping or by stripping blanks; `replace` replaces every occurrence; `substring` takes a
start and an optional length, both checked against the text; `startsWith` and
`endsWith` test interpolation texts; `split` cuts at a separator, or into code points.

Collections:
`join` joins a list's interpolation texts; `contains` and `indexOf` search texts by
substring, objects by key and lists (and for `contains` tuples) by loose equality;
`first` and `last` give the ends of a text or list; `createArray` lists its arguments.

Logic and conversion:
`exists`, `coalesce`, `not`; `string` is the interpolation text; `int` and `float`
read numbers and texts (a text with a point becomes an integer through a double); `bool`
is false for the texts `""`, `"false"`, `"0"` in any case, for zero and for the false
values; `json` reads JSON text.

Numbers:
`max` and `min` take numbers or one list of them and give the first extreme; `sum` adds a
list's numbers to the integer zero from the left; `abs`; `round` rounds half away from
zero at a number of decimal digits through doubles, giving an integer for zero digits.

Each builtin runs in a frame of the host's stack, and computes texts and checks arguments
in frames below it; `json` reads text that nests at most `jsonLevels` levels from there.
-/

namespace Templating

namespace Builtin

/-! ## Checked arguments

A builtin runs in a frame of its own, at the depth each function here takes; an argument
is checked, and a wrong one shown in the failure, in frames below it. -/

/-- The failure that a builtin got a wrong argument `v`, checked in a frame at depth
`frame`: the argument's text is shown one frame deeper. -/
def expecting (frame : Nat) (fn : Builtin) (what : Expectation) (v : Value) : EvalError :=
  EvalError.showing (frame + 1) [v] (.expects fn what v)

/-- A number argument, checked in a frame at depth `frame`. -/
def number (frame : Nat) (fn : Builtin) (v : Value) : Except EvalError Num :=
  match v.num? with
  | some n => .ok n
  | none => .error (expecting frame fn .number v)

/-- A text argument, checked in a frame at depth `frame`. -/
def text (frame : Nat) (fn : Builtin) (v : Value) : Except EvalError Text :=
  match v with
  | .str s => .ok s
  | _ => .error (expecting frame fn .text v)

/-- The size of a text, list, tuple or object, checked in a frame at depth `frame`. -/
def size (frame : Nat) (fn : Builtin) (v : Value) : Except EvalError Value :=
  match v with
  | .str s => .ok (.int s.length)
  | .list xs | .tuple xs => .ok (.int xs.length)
  | .object es => .ok (.int es.length)
  | _ => .error (expecting frame fn .collection v)

/-- The interpolation texts of values, left to right, each in a frame at depth `frame`. -/
def shownTexts (frame : Nat) (vs : List Value) : Except EvalError (List Text) :=
  vs.mapM (Value.shownText frame)

/-! ## Texts -/

/-- `concat` in a frame at depth `frame`; the texts are computed three frames deeper, inside
the host's join. -/
def concatAll (frame : Nat) (vs : List Value) : Except EvalError Value :=
  let lists := vs.filterMap fun v => match v with
    | .list xs => some xs
    | _ => none
  if !vs.isEmpty && lists.length = vs.length then .ok (.list lists.flatten)
  else (fun ts => .str ts.flatten) <$> shownTexts (frame + 3) vs

/-- `substring` in a frame at depth `frame`: the text from `start`, of `count` code points
when it is not null. -/
def substringOf (frame : Nat) (v start count : Value) : Except EvalError Value := do
  let t ← text (frame + 1) .substring v
  let s ← number (frame + 1) .substring start
  if s.isNegative || Num.compare? s (.int t.length) = some .gt then
    .error (.substringStart s)
  match count with
  | .null =>
    match s with
    | .int i => pure (.str (t.drop i.toNat))
    | .float _ => .error .sliceIndex
  | c =>
    let c ← number (frame + 1) .substring c
    if c.isNegative then .error (.substringLength c)
    let stop ← (s.add c).mapError .arith
    if Num.compare? stop (.int t.length) = some .gt then .error (.substringLength c)
    match s, stop with
    | .int i, .int j => pure (.str ((t.drop i.toNat).take (j.toNat - i.toNat)))
    | _, _ => .error .sliceIndex

/-- `split` in a frame at depth `frame`. -/
def splitText (frame : Nat) (v sep : Value) : Except EvalError Value := do
  let t ← text (frame + 1) .split v
  let s ← sep.shownText (frame + 1)
  pure (.list ((Text.splitOn t s).map Value.str))

/-! ## Collections -/

/-- `join` in a frame at depth `frame`; the items' texts are computed three frames deeper,
inside the host's join. -/
def joinTexts (frame : Nat) (v sep : Value) : Except EvalError Value :=
  match v with
  | .list xs => do
    let s ← sep.shownText (frame + 1)
    let ts ← shownTexts (frame + 3) xs
    pure (.str (Text.join s ts))
  | _ => .error (EvalError.showing (frame + 1) [v] (.expects .join .array v))

/-- `contains` in a frame at depth `frame`. -/
def containsItem (frame : Nat) (c item : Value) : Except EvalError Value :=
  match c with
  | .null => .ok (.bool false)
  | .str s => do
    let t ← item.shownText (frame + 1)
    pure (.bool (Text.containsText s t))
  | .object es => do
    let t ← item.shownText (frame + 1)
    pure (.bool (es.any (·.1 = t)))
  | .list xs | .tuple xs => .ok (.bool (Value.memLoose item xs))
  | _ => .error (expecting (frame + 1) .contains .collection c)

/-- `indexOf` in a frame at depth `frame`: the first position of the item, or -1. -/
def indexOfItem (frame : Nat) (c item : Value) : Except EvalError Value :=
  match c with
  | .str s => do
    let t ← item.shownText (frame + 1)
    pure (.int (match Text.find? t s with
      | some i => (i : Int)
      | none => -1))
  | .list xs => .ok (.int (match Value.indexLoose? item xs with
      | some i => (i : Int)
      | none => -1))
  | _ => .error (EvalError.showing (frame + 1) [c] (.expects .indexOf .textOrArray c))

/-- `first` (`atEnd` false) or `last` (`atEnd` true). -/
def endOf (atEnd : Bool) (c : Value) : Value :=
  let pick {α : Type} (xs : List α) : Option α := if atEnd then xs.getLast? else xs.head?
  match c with
  | .str s => ((pick s).map fun ch => Value.str [ch]).getD .null
  | .list xs => (pick xs).getD .null
  | _ => .null

/-! ## Conversion -/

/-- `int` in a frame at depth `frame`. -/
def toInt (frame : Nat) (v : Value) : Except EvalError Value :=
  match v with
  | .bool _ => .error (.booleanConversion .int)
  | .str s =>
    if s.contains 0x2E then
      match Reading.readFloat? s with
      | some x => (Value.int <$> x.truncInt).mapError .arith
      | none => .error (.invalidFloat s)
    else
      match Reading.readInt s with
      | .ok n => .ok (.int n)
      | .error .invalid => .error (.invalidInt s)
      | .error (.tooManyDigits n) => .error (.readDigits n)
  | v => do
    match ← number (frame + 1) .int v with
    | .int n => pure (.int n)
    | .float x => (Value.int <$> x.truncInt).mapError .arith

/-- `float` in a frame at depth `frame`. -/
def toFloat (frame : Nat) (v : Value) : Except EvalError Value :=
  match v with
  | .bool _ => .error (.booleanConversion .float)
  | .str s =>
    match Reading.readFloat? s with
    | some x => .ok (.float x)
    | none => .error (.invalidFloat s)
  | v => do
    let n ← number (frame + 1) .float v
    (Value.float <$> n.toDouble).mapError .arith

/-- `bool`. -/
def toBool (v : Value) : Value :=
  match v with
  | .str s =>
    let l := Text.toLower s
    .bool !(l.isEmpty || l = Text.ofString "false" || l = Text.ofString "0")
  | v =>
    match v.num? with
    | some n => .bool !n.isZero
    | none => .bool v.isTrue

/-- The most levels JSON text may nest when it is read from a frame at depth `frame`: the
reader takes a frame for every array or object it enters, and four to start. -/
def jsonLevels (frame : Nat) : Nat := Stack.limit - (frame + 4)

/-- `json` in a frame at depth `frame`. -/
def readJson (frame : Nat) (v : Value) : Except EvalError Value := do
  let s ← text (frame + 1) .json v
  match Json.readWithin (jsonLevels frame) s with
  | .ok x => .ok x
  | .error (.tooDeep array) => .error (.abort (.stack (Json.depthSite array)))
  | .error e => .error (.json e)

/-! ## Numbers -/

/-- The numbers of `max` or `min`, checked in a frame at depth `frame`: its arguments, or
the items of a single list. -/
def numbers (frame : Nat) (fn : Builtin) (vs : List Value) : Except EvalError (List Num) :=
  let items := match vs with
    | [.list xs] => xs
    | vs => vs
  if items.isEmpty then .error (.noNumbers fn) else items.mapM (number frame fn)

/-- The first extreme of numbers: each later one replaces the current one only when it
is strictly `better`. -/
def extreme (better : Ordering) : List Num → Option Num
  | [] => none
  | n :: ns => some (ns.foldl (fun m k => if Num.compare? k m = some better then k else m) n)

/-- `max` (`better` is `gt`) or `min` (`lt`) in a frame at depth `frame`; the numbers are
checked three frames deeper, where the host gathers them. -/
def pickExtreme (frame : Nat) (fn : Builtin) (better : Ordering) (vs : List Value) :
    Except EvalError Value := do
  let ns ← numbers (frame + 3) fn vs
  pure ((extreme better ns).map Value.ofNum |>.getD .null)

/-- `sum` in a frame at depth `frame`; the items are checked three frames deeper, where
the host sums them. -/
def sumList (frame : Nat) (v : Value) : Except EvalError Value :=
  match v with
  | .list xs => Value.ofNum <$> xs.foldlM (fun acc x => do
      let n ← number (frame + 3) .sum x
      (acc.add n).mapError .arith) (Num.int 0)
  | _ => .error (EvalError.showing (frame + 1) [v] (.expects .sum .array v))

/-- Ten to a power: exact for a natural exponent, through the doubles otherwise. -/
def tenPow : Num → Except ArithError Num
  | .int d =>
    if 0 ≤ d then .ok (.int (Int.pow 10 d.toNat))
    else do
      let y ← Binary64.ofInt? d
      .float <$> Binary64.power (Binary64.ofInt 10) y
  | .float y => .float <$> Binary64.power (Binary64.ofInt 10) y

/-- One half. -/
def half : Binary64 := Binary64.ofIntRatio 1 2

/-- `round` in a frame at depth `frame`: the magnitude times ten to the digits, plus a
half, floored, divided back, with the sign of the value; an integer when the digits are
zero. -/
def roundTo (frame : Nat) (v d : Value) : Except EvalError Value := do
  let x ← number (frame + 1) .round v
  let digits ← number (frame + 1) .round d
  (do
    let factor ← tenPow digits
    let scaled ← x.abs.mul factor
    let shifted ← scaled.add (.float half)
    let floored ← match shifted with
      | .float y => y.floorInt
      | .int n => pure n
    let q ← (Num.int floored).trueDiv factor
    let qd ← q.toDouble
    let vd ← x.toDouble
    let r := qd.copySign vd
    if digits.isZero then Value.int <$> r.truncInt else pure (Value.float r)).mapError .arith

/-! ## Calls -/

/-- A builtin applied, in a frame at depth `frame`, to arguments of a number it takes. -/
def run (frame : Nat) (fn : Builtin) (args : List Value) : Except EvalError Value :=
  match fn, args with
  | .length, [v] => size (frame + 1) .length v
  | .count, [v] => size (frame + 1) .count v
  | .concat, vs => concatAll frame vs
  | .toUpper, [v] => (fun t => .str (Text.toUpper t)) <$> v.shownText (frame + 1)
  | .toLower, [v] => (fun t => .str (Text.toLower t)) <$> v.shownText (frame + 1)
  | .trim, [v] => (fun t => .str (Text.trim t)) <$> v.shownText (frame + 1)
  | .replace, [v, old, new] => do
    let t ← text (frame + 1) .replace v
    let o ← text (frame + 1) .replace old
    let n ← new.shownText (frame + 1)
    pure (.str (Text.replaceAll t o n))
  | .substring, [v, s] => substringOf frame v s .null
  | .substring, [v, s, c] => substringOf frame v s c
  | .startsWith, [v, p] => do
    let t ← v.shownText (frame + 1)
    let q ← p.shownText (frame + 1)
    pure (.bool (Text.startsWith t q))
  | .endsWith, [v, p] => do
    let t ← v.shownText (frame + 1)
    let q ← p.shownText (frame + 1)
    pure (.bool (Text.endsWith t q))
  | .split, [v] => splitText frame v (.str [])
  | .split, [v, s] => splitText frame v s
  | .join, [v] => joinTexts frame v (.str (Text.ofString ","))
  | .join, [v, s] => joinTexts frame v s
  | .contains, [c, x] => containsItem frame c x
  | .indexOf, [c, x] => indexOfItem frame c x
  | .first, [c] => .ok (endOf false c)
  | .last, [c] => .ok (endOf true c)
  | .createArray, vs => .ok (.list vs)
  | .exists, [v] => .ok (.bool (match v with | .null => false | _ => true))
  | .coalesce, vs => .ok ((vs.find? fun v => match v with | .null => false | _ => true).getD .null)
  | .not, [v] => .ok (.bool !v.isTrue)
  | .string, [v] => Value.str <$> v.shownText (frame + 1)
  | .int, [v] => toInt frame v
  | .float, [v] => toFloat frame v
  | .bool, [v] => .ok (toBool v)
  | .json, [v] => readJson frame v
  | .max, vs => pickExtreme frame .max .gt vs
  | .min, vs => pickExtreme frame .min .lt vs
  | .sum, [v] => sumList frame v
  | .abs, [v] => (fun n => Value.ofNum n.abs) <$> number (frame + 1) .abs v
  | .round, [v] => roundTo frame v (.int 0)
  | .round, [v, d] => roundTo frame v d
  | _, _ => .error .arity

/-- A builtin applied to arguments in a frame at depth `frame`: a failure when it does not
take their number. -/
def apply (frame : Nat) (fn : Builtin) (args : List Value) : Except EvalError Value :=
  if fn.accepts args.length then run frame fn args else .error .arity

end Builtin

end Templating
