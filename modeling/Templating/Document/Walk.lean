import Templating.Formula
import Templating.Document.Classify
/-!
# Resolving the texts of a document tree

`Document.walk o ctx tree d` resolves every text leaf of a tree as a document text of its
own (see `classify`): `"=1+2"` becomes `3`, `"Hello ${name}"` is interpolated. Objects
and lists are walked item by item; every other value (numbers, tuples, records) is kept.

* A leaf whose resolution fails keeps its text.
* A leaf that resolves to `null` becomes `null`; any other result is turned into a tree
  (`Value.toTree`) and walked in turn, except that a text result is final.
* The results of leaf resolutions nest at most `maxLeafDepth` deep: a leaf inside that
  many nested results keeps its text, which stops data that refers to itself.
* A text at the root is kept as it is: it is already a resolved result.

A failure that ends the request (`Abort`) in a leaf's evaluation ends the whole walk.

The walk runs on the host's stack from a depth `d`: every level of the tree takes a
frame, a leaf's text is evaluated `leafEvaluation` frames below the leaf, and its result
is turned into a tree and walked `leafResult` frames below it.
-/

namespace Templating

namespace Document

/-- How deeply leaf results may nest. -/
def maxLeafDepth : Nat := 32

mutual

/-- A tree, whose root is walked in a frame at depth `frame`, with every text leaf
replaced by what `f` makes of it at its own depth; children are walked one frame below
their node. -/
def mapLeaves (f : Nat → Text → Except Abort Value) (frame : Nat) : Value → Except Abort Value
  | .str s => f frame s
  | .list xs => .list <$> mapLeavesItems f (frame + 1) xs
  | .object es => .object <$> mapLeavesEntries f (frame + 1) es
  | v => .ok v

/-- `mapLeaves` on the items of a list, each in a frame at depth `frame`. -/
def mapLeavesItems (f : Nat → Text → Except Abort Value) (frame : Nat) :
    List Value → Except Abort (List Value)
  | [] => .ok []
  | x :: xs => do
    let y ← mapLeaves f frame x
    let ys ← mapLeavesItems f frame xs
    pure (y :: ys)

/-- `mapLeaves` on the values of object entries, each in a frame at depth `frame`. -/
def mapLeavesEntries (f : Nat → Text → Except Abort Value) (frame : Nat) :
    List (Text × Value) → Except Abort (List (Text × Value))
  | [] => .ok []
  | (k, x) :: es => do
    let y ← mapLeaves f frame x
    let ys ← mapLeavesEntries f frame es
    pure ((k, y) :: ys)

end

/-- The frames between a leaf's own frame and the frame that evaluates its text. -/
def leafEvaluation : Nat := 4

/-- The frames between a leaf's own frame and the frame that turns its result into a tree
and walks it. -/
def leafResult : Nat := 3

/-- A tree walked in a frame at depth `frame`, with `levels` more levels of leaf results to
resolve; with none left, leaves keep their text. A leaf's result that nests too deeply to
become a tree exhausts the stack. -/
def walkLevels (o : Options) (ctx : Value) : (levels : Nat) → (frame : Nat) → Value →
    Except Abort Value
  | 0, _, v => .ok v
  | n + 1, frame, v => mapLeaves (fun leaf s => do
      match ← o.evaluateText (classify s) ctx (leaf + leafEvaluation) with
      | .error _ => pure (.str s)
      | .ok .null => pure .null
      | .ok r =>
        if r.overflowsAt (leaf + leafResult) then .error (.stack Stack.comparing) else
        match r.toTree with
        | .null => pure .null
        | .str t => pure (.str t)
        | t => walkLevels o ctx n (leaf + leafResult) t) (frame + 1) v

/-- A result walked as a tree in a frame at depth `frame`: a text is kept, anything else
walked from `levels`. -/
def walkResult (o : Options) (ctx : Value) (levels : Nat) (frame : Nat) (v : Value) :
    Except Abort Value :=
  match v with
  | .str _ => .ok v
  | v => walkLevels o ctx levels frame v

/-- The tree with its text leaves resolved, walked in a frame at depth `frame`; a text
root is kept. -/
def walk (o : Options) (ctx : Value) (tree : Value) (frame : Nat) : Except Abort Value :=
  walkResult o ctx maxLeafDepth frame tree

end Document

end Templating
