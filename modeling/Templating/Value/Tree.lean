import Templating.Value.Basic
import Templating.Json.Write
import Templating.Value.Show
import Templating.Abort
/-!
# Values as trees

A tree is a value built from objects, lists and scalars only. Any value becomes one
(`toTree`): tuples and sets become lists, records become objects of their fields,
recursively; methods and the other host objects stay as opaque leaves.

Trees are walked through their children: the entries of an object under their keys, the
items of a list under their positions. Replacing a child is the one edit a walk makes.

The text of a value as interpolation shows it (`toText`): nothing for `null`, the text
itself for a text, `true`/`false`, numbers in program text, compact JSON when the tree of
the value is a list or an object, and the short text (`display`) of an opaque leaf.

Turning a value into plain data is recursive on the host, so a value that nests deeply
enough exhausts the host's stack (`overflowsAt`, measured by `nativeFrames`).

Main statements:

    toTree (toTree v) = toTree v                          (toTree_idem)
    overflowsAt d (int n) = false                         (overflowsAt_int)
-/

namespace Templating

namespace Value

/-! ## Trees -/

mutual

/-- The tree of a value: tuples and sets become lists and records objects, all the way
down. -/
def toTree : Value → Value
  | .list xs => .list (toTreeItems xs)
  | .tuple xs => .list (toTreeItems xs)
  | .object es => .object (toTreeEntries es)
  | .record _ _ fs => .object (toTreeEntries fs)
  | .host (.fieldNames _ names) => .list (names.map .str)
  | v => v

/-- The trees of items. -/
def toTreeItems : List Value → List Value
  | [] => []
  | x :: xs => toTree x :: toTreeItems xs

/-- The trees of entries. -/
def toTreeEntries : List (Text × Value) → List (Text × Value)
  | [] => []
  | (k, v) :: es => (k, toTree v) :: toTreeEntries es

end

/-- The key of a child: a key of an object or a position in a list. -/
inductive ChildKey where
  | key (k : Text)
  | pos (i : Nat)
deriving DecidableEq

/-- The children of a node in order; a leaf has none. -/
def children : Value → List (ChildKey × Value)
  | .object es => es.map (fun e => (.key e.1, e.2))
  | .list xs => xs.zipIdx.map (fun p => (.pos p.2, p.1))
  | _ => []

/-- Why a child cannot be replaced. -/
inductive ReplaceError where
  /-- The node is a leaf of the given kind. -/
  | leaf (kind : NodeKind)
  /-- A list position outside the list. -/
  | outOfRange
  /-- A list position too large for any list. -/
  | tooLarge
  /-- A list key that is not an integer, of the given type. -/
  | notAPosition (typeName : Text)
  /-- An object key that cannot be hashed, because of a value of the given type in it. -/
  | unhashable (typeName : Text)

/-- The message of a failed replacement. -/
def ReplaceError.message : ReplaceError → Text
  | .leaf k => Text.ofString "Cannot replace child of " ++ k.name ++ Text.ofString " node"
  | .outOfRange => Text.ofString "list assignment index out of range"
  | .tooLarge => Text.ofString "cannot fit 'int' into an index-sized integer"
  | .notAPosition t => Text.ofString "list indices must be integers or slices, not " ++ t
  | .unhashable t => Text.ofString "unhashable type: '" ++ t ++ Text.ofString "'"

/-- A list position from an integer: counted from the end when negative. -/
def position? (n : Int) (len : Nat) : Option Nat :=
  if 0 ≤ n then (if n < len then some n.toNat else none)
  else if -n ≤ len then some (len - n.natAbs) else none

mutual

/-- The type of the first value in a key that cannot be hashed: lists, objects and
records cannot be, and a tuple cannot be when one of its items cannot. -/
def unhashable? : Value → Option Text
  | .list _ => some (Text.ofString "list")
  | .object _ => some (Text.ofString "dict")
  | .record k _ _ => some k.className
  | .tuple xs => unhashableItem? xs
  | _ => none

/-- `unhashable?` on the items of a tuple, the first one that has a type to report. -/
def unhashableItem? : List Value → Option Text
  | [] => none
  | x :: xs =>
    match unhashable? x with
    | some t => some t
    | none => unhashableItem? xs

end

/-- The key of an object entry for a key value: a text is itself, and anything else is
keyed by its short text (`True`, `-inf`, `(1, 2)`), as objects are written with text keys
only. Two keys of one text are then one entry. -/
def entryKey (k : Value) : Text :=
  match k with
  | .str s => s
  | _ => k.display.getD []

/-- The node with the child under `key` replaced by (or, for an object, set to) `child`. -/
def replaceChild (node key child : Value) : Except ReplaceError Value :=
  match node with
  | .object es =>
    match unhashable? key with
    | some t => .error (.unhashable t)
    | none => .ok (.object (Entries.set es (entryKey key) child))
  | .list xs =>
    let index? : Except ReplaceError Int := match key with
      | .int n => .ok n
      | .bool b => .ok (if b then 1 else 0)
      | k => .error (.notAPosition k.typeName)
    match index? with
    | .error e => .error e
    | .ok n =>
      if n < -Int.pow 2 63 ∨ Int.pow 2 63 ≤ n then .error .tooLarge else
      match position? n xs.length with
      | some i => .ok (.list (xs.set i child))
      | none => .error .outOfRange
  | v => .error (.leaf v.nodeKind)

/-! ## Text of a value -/

/-- The text of a value as interpolation shows it; none when an integer in it is beyond
the digit limit. -/
def toText : Value → Option Text
  | .null => some []
  | .str s => some s
  | .bool b => some (Text.ofString (if b then "true" else "false"))
  | .int n => Int.toText? n
  | .float x => some x.toText
  | v =>
    match v.toTree with
    | t@(.list _) | t@(.object _) => Json.write Json.Layout.compact t
    | t => t.display

/-! ## Depth of a value -/

mutual

/-- The frames, below the frame that starts it, that turning a value into plain data takes
on the host: two for every level of lists, tuples, sets and objects, an empty one
included, and three for a record, which is first made into an object. A scalar is plain
data already and takes none. -/
def nativeFrames : Value → Nat
  | .list xs => nativeFramesItems xs + 2
  | .tuple xs => nativeFramesItems xs + 2
  | .object es => nativeFramesEntries es + 2
  | .record _ _ fs => nativeFramesEntries fs + 3
  | .host (.fieldNames _ _) => 2
  | _ => 0

/-- The most frames any of the items takes. -/
def nativeFramesItems : List Value → Nat
  | [] => 0
  | x :: xs => max (nativeFrames x) (nativeFramesItems xs)

/-- The most frames any of the entries' values takes. -/
def nativeFramesEntries : List (Text × Value) → Nat
  | [] => 0
  | (_, v) :: es => max (nativeFrames v) (nativeFramesEntries es)

end

/-- Whether turning a value into plain data, in a frame at depth `frame`, runs out of
stack: below its deepest level the conversion compares types, two frames deeper. -/
def overflowsAt (frame : Nat) (v : Value) : Bool :=
  0 < v.nativeFrames && Stack.limit < frame + v.nativeFrames + 2

/-! ## Lemmas -/

theorem toTreeItems_strs (names : List Text) : toTreeItems (names.map .str) = names.map .str := by
  induction names with
  | nil => rfl
  | cons n ns ih => simp only [List.map, toTreeItems, toTree, ih]

mutual

theorem toTree_idem : ∀ v : Value, toTree (toTree v) = toTree v
  | .null => rfl
  | .bool _ => rfl
  | .int _ => rfl
  | .float _ => rfl
  | .str _ => rfl
  | .list xs => by simp only [toTree, toTreeItems_idem xs]
  | .tuple xs => by simp only [toTree, toTreeItems_idem xs]
  | .object es => by simp only [toTree, toTreeEntries_idem es]
  | .record _ _ fs => by simp only [toTree, toTreeEntries_idem fs]
  | .method _ _ _ => rfl
  | .host (.fieldNames _ names) => by simp only [toTree, toTreeItems_strs]
  | .host (.fieldInfo _ _) => rfl
  | .host .objectClass => rfl
  | .host .undefined => rfl

theorem toTreeItems_idem : ∀ xs : List Value, toTreeItems (toTreeItems xs) = toTreeItems xs
  | [] => rfl
  | x :: xs => by simp only [toTreeItems, toTree_idem x, toTreeItems_idem xs]

theorem toTreeEntries_idem :
    ∀ es : List (Text × Value), toTreeEntries (toTreeEntries es) = toTreeEntries es
  | [] => rfl
  | (_, v) :: es => by simp only [toTreeEntries, toTree_idem v, toTreeEntries_idem es]

end

theorem overflowsAt_int (frame : Nat) (n : Int) : (Value.int n).overflowsAt frame = false := rfl

end Value

end Templating
