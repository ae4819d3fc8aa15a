import Templating.Text.LowerTable
import Templating.Text.UpperTable
import Templating.Text.Cased
/-!
# Case mapping

Full Unicode case mapping of text, code point by code point. Uppercasing may lengthen a
text (`ß` becomes `SS`, `ﬁ` becomes `FI`). Lowercasing has one rule that looks at the
neighbours: a capital sigma that ends a word becomes the final sigma `ς`, any other the
ordinary `σ`. It ends a word when a cased code point precedes it and none follows it,
case-ignorable code points being skipped on both sides.
-/

namespace Templating.Text

/-! ## Algorithm -/

/-- The image of a code point under a mapping given by runs and special entries. -/
def mapCodePoint (runs : List (Nat × Nat × Nat × Int)) (special : List (Nat × List Nat))
    (c : Nat) : List Nat :=
  match special.lookup c with
  | some image => image
  | none =>
    match runs.find? (fun r => r.1 ≤ c && c ≤ r.2.1 && (c - r.1) % r.2.2.1 == 0) with
    | some r => [((c : Int) + r.2.2.2).toNat]
    | none => [c]

/-- The uppercase form of a code point. -/
def upperOf (c : Nat) : List Nat := mapCodePoint upperRuns upperSpecial c

/-- The lowercase form of a code point, out of context. -/
def lowerOf (c : Nat) : List Nat := mapCodePoint lowerRuns lowerSpecial c

/-- The capital sigma. -/
def capitalSigma : Nat := 0x3A3

/-- Whether a capital sigma between `before` (nearest first) and `after` ends a word. -/
def endsWord (before after : Text) : Bool :=
  ((before.dropWhile isCaseIgnorable).head?.any isCased) &&
    !((after.dropWhile isCaseIgnorable).head?.any isCased)

/-- The uppercase form of a text. -/
def toUpper (t : Text) : Text := t.flatMap upperOf

/-- Lowercase `t`, where `before` holds the code points already passed, nearest first. -/
def lowerFrom (before : Text) : Text → Text
  | [] => []
  | c :: after =>
    (if c = capitalSigma then [if endsWord before after then 0x3C2 else 0x3C3] else lowerOf c)
      ++ lowerFrom (c :: before) after

/-- The lowercase form of a text. -/
def toLower (t : Text) : Text := lowerFrom [] t

end Templating.Text
