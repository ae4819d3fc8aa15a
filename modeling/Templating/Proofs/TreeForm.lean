import Templating.Proofs.JsonEquality
import Templating.Proofs.ConstantFormula
/-!
# Native values as trees

The host hands over values of its own (`Value.IsNative`): lists, tuples, objects and
records of three kinds (plain data classes, attribute classes and validated models, a
model read through its fields in their order), with null, booleans, integers, doubles and
texts at the leaves. Turning such a value into a tree (`Value.toTree`) rebuilds every
container: a tuple becomes a list and a record the object of its fields, each item, key
and field kept in its place, and a scalar is returned as it is (`Flattened`).

The tree is JSON data (`Value.IsJson`): no tuple or record is left at any depth, so no
node of it is an opaque leaf that a walk would pass over. JSON data is a tree already
(`IsJson.toTree_eq`), so turning the tree into a tree again changes nothing.

Main statements:

    x.IsNative → (toTree x).IsJson ∧ Flattened x (toTree x) ∧
      toTree (toTree x) = toTree x ∧ (x.IsJson → toTree x = x)        (native_tree_form)
-/

namespace Templating

namespace Value

/-! ## Native values and their flattening -/

/-- A native value: null, a boolean, an integer, a double, a text, or a list, tuple,
object or record of native values. Methods and the host's own objects are not. -/
inductive IsNative : Value → Prop
  | null : IsNative .null
  | bool (b : Bool) : IsNative (.bool b)
  | int (n : Int) : IsNative (.int n)
  | float (x : Binary64) : IsNative (.float x)
  | str (s : Text) : IsNative (.str s)
  | list {xs : List Value} : (∀ x ∈ xs, IsNative x) → IsNative (.list xs)
  | tuple {xs : List Value} : (∀ x ∈ xs, IsNative x) → IsNative (.tuple xs)
  | object {es : List (Text × Value)} : (∀ e ∈ es, IsNative e.2) → IsNative (.object es)
  | record (k : RecordKind) (id : Nat) {fs : List (Text × Value)} :
      (∀ f ∈ fs, IsNative f.2) → IsNative (.record k id fs)

mutual

/-- `Flattened x t`: the tree `t` is the native value `x` with every tuple made a list and
every record the object of its fields. A scalar is kept; a list or tuple keeps its items
in their order and an object or record its keys in theirs, each item and value flattened
in its place. -/
inductive Flattened : Value → Value → Prop
  | null : Flattened .null .null
  | bool (b : Bool) : Flattened (.bool b) (.bool b)
  | int (n : Int) : Flattened (.int n) (.int n)
  | float (x : Binary64) : Flattened (.float x) (.float x)
  | str (s : Text) : Flattened (.str s) (.str s)
  | list {xs ys : List Value} : FlattenedItems xs ys → Flattened (.list xs) (.list ys)
  | tuple {xs ys : List Value} : FlattenedItems xs ys → Flattened (.tuple xs) (.list ys)
  | object {es fs : List (Text × Value)} :
      FlattenedEntries es fs → Flattened (.object es) (.object fs)
  | record (k : RecordKind) (id : Nat) {es fs : List (Text × Value)} :
      FlattenedEntries es fs → Flattened (.record k id es) (.object fs)

/-- `Flattened` item by item. -/
inductive FlattenedItems : List Value → List Value → Prop
  | nil : FlattenedItems [] []
  | cons {x y : Value} {xs ys : List Value} :
      Flattened x y → FlattenedItems xs ys → FlattenedItems (x :: xs) (y :: ys)

/-- `Flattened` on the values of entries, their keys kept. -/
inductive FlattenedEntries : List (Text × Value) → List (Text × Value) → Prop
  | nil : FlattenedEntries [] []
  | cons {k : Text} {x y : Value} {es fs : List (Text × Value)} :
      Flattened x y → FlattenedEntries es fs → FlattenedEntries ((k, x) :: es) ((k, y) :: fs)

end

/-! ## The tree of a native value -/

theorem toTreeItems_eq_map (xs : List Value) : toTreeItems xs = xs.map toTree := by
  induction xs with
  | nil => rfl
  | cons x xs ih => rw [toTreeItems, ih, List.map_cons]

theorem toTreeEntries_eq_map (es : List (Text × Value)) :
    toTreeEntries es = es.map fun e => (e.1, e.2.toTree) := by
  induction es with
  | nil => rfl
  | cons e es ih => rw [toTreeEntries, ih, List.map_cons]

theorem flattenedItems_map {xs : List Value} (h : ∀ x ∈ xs, Flattened x x.toTree) :
    FlattenedItems xs (xs.map toTree) := by
  induction xs with
  | nil => exact .nil
  | cons x xs ih =>
    rw [List.forall_mem_cons] at h
    exact .cons h.1 (ih h.2)

theorem flattenedEntries_map {es : List (Text × Value)} (h : ∀ e ∈ es, Flattened e.2 e.2.toTree) :
    FlattenedEntries es (es.map fun e => (e.1, e.2.toTree)) := by
  induction es with
  | nil => exact .nil
  | cons e es ih =>
    rw [List.forall_mem_cons] at h
    exact .cons h.1 (ih h.2)

theorem IsNative.flattened {x : Value} (hx : x.IsNative) : Flattened x x.toTree := by
  induction hx with
  | null => exact .null
  | bool b => exact .bool b
  | int n => exact .int n
  | float x => exact .float x
  | str s => exact .str s
  | list _ ih =>
    rw [toTree, toTreeItems_eq_map]
    exact .list (flattenedItems_map ih)
  | tuple _ ih =>
    rw [toTree, toTreeItems_eq_map]
    exact .tuple (flattenedItems_map ih)
  | object _ ih =>
    rw [toTree, toTreeEntries_eq_map]
    exact .object (flattenedEntries_map ih)
  | record k id _ ih =>
    rw [toTree, toTreeEntries_eq_map]
    exact .record k id (flattenedEntries_map ih)

theorem IsNative.isJson_toTree {x : Value} (hx : x.IsNative) : x.toTree.IsJson := by
  induction hx with
  | null => exact .null
  | bool b => exact .bool b
  | int n => exact .int n
  | float x => exact .float x
  | str s => exact .str s
  | list _ ih | tuple _ ih =>
    rw [toTree, toTreeItems_eq_map]
    exact .list (List.forall_mem_map.2 ih)
  | object _ ih | record _ _ _ ih =>
    rw [toTree, toTreeEntries_eq_map]
    exact .object (List.forall_mem_map.2 ih)

theorem IsJson.toTree_eq {t : Value} (ht : t.IsJson) : t.toTree = t := by
  induction ht with
  | null | bool _ | int _ | float _ | str _ => rfl
  | list _ ih => rw [toTree, toTreeItems_of_plain ih]
  | object _ ih => rw [toTree, toTreeEntries_of_plain ih]

end Value

open Value

/-- **A native value becomes a tree of JSON data, in its own order.** Its tree holds only
null, booleans, integers, doubles, texts, lists and objects at every depth, flattens it
item by item and key by key, and is a tree already, so that turning it into a tree again
gives it back; a native value that is JSON data is its own tree. -/
theorem native_tree_form {x : Value} (hx : x.IsNative) :
    x.toTree.IsJson ∧ Flattened x x.toTree ∧ x.toTree.toTree = x.toTree ∧
      (x.IsJson → x.toTree = x) :=
  ⟨hx.isJson_toTree, hx.flattened, hx.isJson_toTree.toTree_eq, IsJson.toTree_eq⟩

/-- A validated model holding a tuple that holds a plain record becomes objects and
lists, fields and items in their order. -/
theorem native_tree_form_nested :
    let x := Value.record .model 1
      [(Text.ofString "a", .tuple [.int 1, .record .data 2 [(Text.ofString "b", .null)]]),
        (Text.ofString "c", .list [.str (Text.ofString "x"), .bool true])]
    x.IsNative ∧ (x.toTree.IsJson ∧ Flattened x x.toTree ∧ x.toTree.toTree = x.toTree ∧
      (x.IsJson → x.toTree = x)) ∧
      x.toTree = .object
        [(Text.ofString "a", .list [.int 1, .object [(Text.ofString "b", .null)]]),
          (Text.ofString "c", .list [.str (Text.ofString "x"), .bool true])] := by
  intro x
  have hx : x.IsNative := by
    refine .record _ _ fun f hf => ?_
    simp only [List.mem_cons, List.not_mem_nil, or_false] at hf
    rcases hf with rfl | rfl
    · refine .tuple fun y hy => ?_
      simp only [List.mem_cons, List.not_mem_nil, or_false] at hy
      rcases hy with rfl | rfl
      · exact .int 1
      · refine .record _ _ fun g hg => ?_
        simp only [List.mem_cons, List.not_mem_nil, or_false] at hg
        rw [hg]
        exact .null
    · refine .list fun y hy => ?_
      simp only [List.mem_cons, List.not_mem_nil, or_false] at hy
      rcases hy with rfl | rfl
      · exact .str _
      · exact .bool true
  exact ⟨hx, native_tree_form hx, rfl⟩

end Templating
