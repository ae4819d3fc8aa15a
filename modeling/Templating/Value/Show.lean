import Templating.Value.Basic
import Templating.Number.FloatText
import Templating.Number.IntText
import Templating.Text.Quoted
import Templating.Value.Attribute
/-!
# Values as program text

The text of a value as a programmer writes it: `None`, `True`, `False`, integers in
decimal, doubles in their shortest form, texts quoted (`Text.quote`), lists in square
brackets, tuples in round brackets (a one-item tuple with a trailing comma), objects in
braces with `key: value` entries, and records as their class name followed by their
fields `name=value` in round brackets. Items are separated by `, `. A method of a model
or of a field description shows its qualified name and what it is bound to (the object,
or the model's class); a built-in method shows its name and the type of its receiver, and
an unbound function its qualified name (the host also shows an address for these, which
no value here has). The set of field names is written in braces, a field description
with its settings, the root class as a class, and the marker of no default by its name.

The short text of a value (`Value.display`) is what the host shows for it as text: a text
stands for itself, a validated model is its fields separated by single spaces, and a field
description its settings separated by spaces, both without the class name. For every
other value it is the program text.

Writing fails only for an integer with more digits than `digitLimit`.
-/

namespace Templating

namespace Host

/-- The settings of a field description: every field holds any value and must be given. -/
def settings : List (String × String) := [("annotation", "object"), ("required", "True")]

/-- The program text of a field description. -/
def fieldInfoText : Text :=
  Text.ofString "FieldInfo(" ++
    Text.join (Text.ofString ", ") (settings.map fun p => Text.ofString (p.1 ++ "=" ++ p.2)) ++
    [0x29]

/-- The program text of a host object: a set of names in braces (`set()` when empty). -/
def repr : Host → Text
  | .fieldNames _ [] => Text.ofString "set()"
  | .fieldNames _ names => [0x7B] ++ Text.join (Text.ofString ", ") (names.map Text.quote) ++ [0x7D]
  | .fieldInfo _ _ => fieldInfoText
  | .objectClass => Text.ofString "<class 'object'>"
  | .undefined => Text.ofString "PydanticUndefined"

end Host

namespace Value

/-- `items` separated by `sep`, failing when one of them fails. -/
def joinAll (sep : Text) (items : List (Option Text)) : Option Text :=
  (items.mapM id).map (Text.join sep)

mutual

/-- The program text of a value. -/
def repr : Value → Option Text
  | .null => some (Text.ofString "None")
  | .bool b => some (Text.ofString (if b then "True" else "False"))
  | .int n => Int.toText? n
  | .float x => some x.toText
  | .str s => some (Text.quote s)
  | .list xs => (reprItems xs).map (fun t => [0x5B] ++ t ++ [0x5D])
  | .tuple [x] => (repr x).map (fun t => [0x28] ++ t ++ [0x2C, 0x29])
  | .tuple xs => (reprItems xs).map (fun t => [0x28] ++ t ++ [0x29])
  | .object es => (reprEntries es).map (fun t => [0x7B] ++ t ++ [0x7D])
  | .record k _ fs => (reprFields (Text.ofString ", ") fs).map (fun t => k.className ++ [0x28] ++ t ++ [0x29])
  | .method r name _ =>
    let bound (cls owner : Text) := Text.ofString "<bound method " ++ cls ++ [0x2E] ++ name ++
      Text.ofString " of " ++ owner ++ [0x3E]
    match r with
    | .record k _ _ =>
      if named classMethods name then
        some (bound (Text.ofString "BaseModel")
          (Text.ofString "<class '__main__." ++ k.className ++ Text.ofString "'>"))
      else bound (Text.ofString "BaseModel") <$> repr r
    | .host (.fieldInfo _ _) =>
      if named Host.staticNames name then
        some (Text.ofString "<function FieldInfo." ++ name ++ [0x3E])
      else some (bound (Text.ofString "FieldInfo") Host.fieldInfoText)
    | _ =>
      let owner := if named classMethods name then Text.ofString "type" else r.typeName
      some (Text.ofString "<built-in method " ++ name ++ Text.ofString " of " ++ owner ++
        Text.ofString " object>")
  | .host h => some h.repr

/-- Items separated by `, `. -/
def reprItems : List Value → Option Text
  | [] => some []
  | [x] => repr x
  | x :: xs => do
    let a ← repr x
    let b ← reprItems xs
    pure (a ++ Text.ofString ", " ++ b)

/-- Object entries `'key': value` separated by `, `. -/
def reprEntries : List (Text × Value) → Option Text
  | [] => some []
  | [(k, v)] => (repr v).map (fun b => Text.quote k ++ Text.ofString ": " ++ b)
  | (k, v) :: es => do
    let b ← repr v
    let rest ← reprEntries es
    pure (Text.quote k ++ Text.ofString ": " ++ b ++ Text.ofString ", " ++ rest)

/-- Record fields `name=value` separated by `sep`. -/
def reprFields (sep : Text) : List (Text × Value) → Option Text
  | [] => some []
  | [(k, v)] => (repr v).map (fun b => k ++ [0x3D] ++ b)
  | (k, v) :: fs => do
    let b ← repr v
    let rest ← reprFields sep fs
    pure (k ++ [0x3D] ++ b ++ sep ++ rest)

end

/-- The short text of a value: a text is itself, a validated model is its fields and a
field description its settings separated by spaces, anything else is its program text. -/
def display : Value → Option Text
  | .str s => some s
  | .record .model _ fs => reprFields (Text.ofString " ") fs
  | .host (.fieldInfo _ _) =>
    some (Text.join (Text.ofString " ") (Host.settings.map fun p => Text.ofString (p.1 ++ "=" ++ p.2)))
  | v => repr v

end Value

end Templating
