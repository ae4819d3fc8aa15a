import Templating.Eval.Error
/-!
# Reading properties and items

Expressions read a value's parts in two ways.

A *property* (`a.name`, `a['name']`) is read from objects by key, and from any other
value by its attributes (`Value.attr`): the fields of records, the numeric parts of
numbers and booleans, and the methods of numbers and models. A name starting with `_` is
private and reads nothing but the keys of objects. Anything missing reads `null`, as does
every property of `null`, texts, lists and tuples.

An *item* (`a[i]`) is a property when `i` is a text. An integer position reads from texts
(a one-code-point text), lists and tuples, counting from the end when negative; a
position outside the sequence is a failure when indexing is strict and `null` otherwise.
Any other index is a failure, as is a position into a value that is not a sequence.
-/

namespace Templating

namespace Value

/-- Whether a name is private: it starts with `_`. -/
def isPrivate (name : Text) : Bool := name.head? = some 0x5F

/-- The named property of a value; `null` when it has none. -/
def property (v : Value) (name : Text) : Value :=
  match v with
  | .null | .str _ | .list _ | .tuple _ => .null
  | .object es => (es.lookup name).getD .null
  | v => if isPrivate name then .null else v.attr name

/-- The items of a sequence: the code points of a text as texts, or a list's or tuple's
items. -/
def sequence? : Value → Option (List Value)
  | .str s => some (s.map fun c => .str [c])
  | .list xs | .tuple xs => some xs
  | _ => none

/-- The index into `n` items of position `i`, counted from the end when negative. -/
def slot? (i : Int) (n : Nat) : Option Nat :=
  if 0 ≤ i then (if i < n then some i.toNat else none)
  else if -(n : Int) ≤ i then some (n - i.natAbs) else none

/-- The item of a value at an index; `strict` makes a position outside the sequence a
failure instead of `null`. -/
def item (strict : Bool) (target index : Value) : Except EvalError Value :=
  match target, index with
  | .null, _ => .ok .null
  | t, .str k => .ok (t.property k)
  | t, .int i =>
    match t with
    | .object _ => .ok .null
    | t =>
      match t.sequence? with
      | none => .error (.notIndexable t)
      | some xs =>
        match slot? i xs.length with
        | some k => .ok (xs.getD k .null)
        | none => if strict then .error (.indexRange i xs.length) else .ok .null
  | _, k => .error (.indexType k)

end Value

end Templating
