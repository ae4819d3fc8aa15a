import Templating.Number.Binary64
import Templating.Text.Basic
/-!
# Values

The values that expressions compute and documents hold: JSON's values, with integers
unbounded and numbers with a fraction held as doubles, plus the values a host application
passes in: tuples, and records of three kinds (plain data classes, attribute classes and
validated models). Objects keep their entries in insertion order, with distinct keys.

A record is a host object: it is equal only to itself. Each record carries the identity
`id` that its host gave it, and two records are the same object when their identities are.
Reading a value's attributes can also give objects of the host that hold no data of their
own: methods bound to the value they were read from (`method`), and the few objects a
validated model exposes (`Host`).

Main statements:

    (set o k v).lookup k = some v                          (lookup_set_self)
-/

namespace Templating

/-- The kind of a host record. -/
inductive RecordKind where
  /-- A plain data class. -/
  | data
  /-- A class of the attribute library. -/
  | attrs
  /-- A validated model. -/
  | model
deriving DecidableEq, Inhabited

/-- The objects of the host that a validated model exposes and that expressions can read
but never build. -/
inductive Host where
  /-- The set of the field names of the model with identity `owner`. -/
  | fieldNames (owner : Nat) (names : List Text)
  /-- The description of the field `name` of the model with identity `owner`. -/
  | fieldInfo (owner : Nat) (name : Text)
  /-- The root class of all classes, the declared type of every model field. -/
  | objectClass
  /-- The marker of a field without a default. -/
  | undefined
deriving DecidableEq, Inhabited

/-- A value. -/
inductive Value where
  | null
  | bool (b : Bool)
  | int (n : Int)
  | float (x : Binary64)
  | str (s : Text)
  | list (items : List Value)
  | tuple (items : List Value)
  | object (entries : List (Text × Value))
  | record (kind : RecordKind) (id : Nat) (fields : List (Text × Value))
  /-- A method of the host read from a value: the method `name` bound to `receiver`,
  which was read from the context at `place` when it is known where it came from. -/
  | method (receiver : Value) (name : Text) (place : Option (List Text))
  /-- An object of the host. -/
  | host (h : Host)
deriving Inhabited

/-- The entries of an object: keys with their values, in insertion order. -/
abbrev Entries := List (Text × Value)

namespace RecordKind

/-- The name of the host class of a record kind. -/
def className : RecordKind → Text
  | .data => Text.ofString "Record"
  | .attrs => Text.ofString "AttrsRecord"
  | .model => Text.ofString "ModelRecord"

end RecordKind

/-- The kind of a node of a tree, as tree walking sees it. Tuples and records are
opaque leaves (`other`). -/
inductive NodeKind where
  | null | boolean | number | string | array | object | other
deriving DecidableEq

namespace NodeKind

/-- The name of a node kind. -/
def name : NodeKind → Text
  | .null => Text.ofString "null"
  | .boolean => Text.ofString "boolean"
  | .number => Text.ofString "number"
  | .string => Text.ofString "string"
  | .array => Text.ofString "array"
  | .object => Text.ofString "object"
  | .other => Text.ofString "other"

end NodeKind

namespace Entries

/-- The value under a key. -/
def lookup (es : Entries) (k : Text) : Option Value := List.lookup k es

/-- The entries with `k` set to `v`: in place when the key is present, appended otherwise. -/
def set : Entries → Text → Value → Entries
  | [], k, v => [(k, v)]
  | (k', v') :: rest, k, v => if k' = k then (k, v) :: rest else (k', v') :: set rest k v

/-- Entries built from pairs in order, a later pair of a key replacing the earlier value
in its place. -/
def ofPairs (ps : List (Text × Value)) : Entries := ps.foldl (fun es p => set es p.1 p.2) []

theorem lookup_set_self (es : Entries) (k : Text) (v : Value) : (set es k v).lookup k = some v := by
  induction es with
  | nil => simp [set, lookup]
  | cons e rest ih =>
    obtain ⟨k', v'⟩ := e
    by_cases h : k' = k
    · subst h; simp [set, lookup]
    · simp only [set, h, if_false]
      simp only [lookup, List.lookup_cons] at ih ⊢
      have : (k == k') = false := by simp; exact fun e => h e.symm
      simp [this, ih]

end Entries

namespace Host

/-- The name of the host type of an object. -/
def typeName : Host → Text
  | .fieldNames _ _ => Text.ofString "set"
  | .fieldInfo _ _ => Text.ofString "FieldInfo"
  | .objectClass => Text.ofString "type"
  | .undefined => Text.ofString "PydanticUndefinedType"

/-- The functions that a field description offers without binding them to itself. -/
def staticNames : List String :=
  ["from_annotated_attribute", "from_annotation", "from_field", "merge_field_infos"]

end Host

namespace Value

/-- The name of the host type of a value, as error messages give it. -/
def typeName : Value → Text
  | .null => Text.ofString "NoneType"
  | .bool _ => Text.ofString "bool"
  | .int _ => Text.ofString "int"
  | .float _ => Text.ofString "float"
  | .str _ => Text.ofString "str"
  | .list _ => Text.ofString "list"
  | .tuple _ => Text.ofString "tuple"
  | .object _ => Text.ofString "dict"
  | .record k _ _ => k.className
  | .method (.record _ _ _) _ _ => Text.ofString "method"
  | .method (.host (.fieldInfo _ _)) name _ =>
    if Host.staticNames.any (fun n => Text.ofString n = name) then Text.ofString "function"
    else Text.ofString "method"
  | .method _ _ _ => Text.ofString "builtin_function_or_method"
  | .host h => h.typeName

/-- Whether a value is a number: an integer or a double, never a boolean. -/
def isNumber : Value → Bool
  | .int _ | .float _ => true
  | _ => false

/-- Truth in conditions: every value is true except `null` and `false`. -/
def isTrue : Value → Bool
  | .null => false
  | .bool b => b
  | _ => true

/-- The node kind of a value. -/
def nodeKind : Value → NodeKind
  | .null => .null
  | .bool _ => .boolean
  | .int _ | .float _ => .number
  | .str _ => .string
  | .list _ => .array
  | .object _ => .object
  | .tuple _ | .record _ _ _ | .method _ _ _ | .host _ => .other

/-- A text value from a Lean string. -/
def ofString (s : String) : Value := .str (Text.ofString s)

end Value

end Templating
