import Templating.Value.Basic
import Templating.Number.FloatText
import Templating.Number.IntText
import Templating.Value.Show
/-!
# Writing JSON

JSON text of a value, in plain ASCII: inside strings, the quote and the backslash are
escaped, the controls backspace, form feed, newline, return and tab have their short
escapes, and every code point outside the printable ASCII range `0x20`–`0x7E` is written
`\uhhhh` (a code point beyond the BMP as its UTF-16 surrogate pair, a lone surrogate as
itself). Numbers are written as in program text, with `NaN`, `Infinity` and `-Infinity`
for the non-finite doubles. Tuples are written as arrays and records as objects of their
fields. A method or other host object is written as the string of its short text
(`Value.display`).

The separators between items and between a key and its value are the one choice of
layout (`Layout`): `compact` writes `,` and `:`, `spaced` writes `, ` and `: `.

Writing fails only for an integer with more digits than `digitLimit`.
-/

namespace Templating

namespace Json

/-- The separators of JSON text. -/
structure Layout where
  /-- Between two items of an array or two entries of an object. -/
  itemSep : Text
  /-- Between a key and its value. -/
  keySep : Text

/-- Separators without spaces. -/
def Layout.compact : Layout := ⟨Text.ofString ",", Text.ofString ":"⟩

/-- Separators followed by a space. -/
def Layout.spaced : Layout := ⟨Text.ofString ", ", Text.ofString ": "⟩

/-! ## Strings -/

/-- The escape `\uhhhh` of a code point below 0x10000. -/
def unicodeEscape (c : Nat) : Text := Text.ofString "\\u" ++ Text.hex 4 c

/-- How one code point is written inside a JSON string. -/
def escapeCodePoint (c : Nat) : Text :=
  if c = 0x22 then Text.ofString "\\\""
  else if c = 0x5C then Text.ofString "\\\\"
  else if c = 0x08 then Text.ofString "\\b"
  else if c = 0x0C then Text.ofString "\\f"
  else if c = 0x0A then Text.ofString "\\n"
  else if c = 0x0D then Text.ofString "\\r"
  else if c = 0x09 then Text.ofString "\\t"
  else if 0x20 ≤ c ∧ c ≤ 0x7E then [c]
  else if c < 0x10000 then unicodeEscape c
  else unicodeEscape (0xD800 + (c - 0x10000) / 0x400) ++ unicodeEscape (0xDC00 + (c - 0x10000) % 0x400)

/-- A text as a JSON string literal. -/
def quote (t : Text) : Text := 0x22 :: t.flatMap escapeCodePoint ++ [0x22]

/-! ## Values -/

/-- `t` between the brackets `l` and `r`. -/
def enclose (l r : Nat) (t : Text) : Text := l :: t ++ [r]

mutual

/-- The JSON text of a value; none when an integer is beyond the digit limit. -/
def write (L : Layout) : Value → Option Text
  | .null => some (Text.ofString "null")
  | .bool b => some (Text.ofString (if b then "true" else "false"))
  | .int n => Int.toText? n
  | .float x => some (x.render FloatLayout.json)
  | .str s => some (quote s)
  | .list xs => (writeItems L xs).map (enclose 0x5B 0x5D)
  | .tuple xs => (writeItems L xs).map (enclose 0x5B 0x5D)
  | .object es => (writeEntries L es).map (enclose 0x7B 0x7D)
  | .record _ _ fs => (writeEntries L fs).map (enclose 0x7B 0x7D)
  | v@(.method _ _ _) | v@(.host _) => quote <$> v.display

/-- The items of an array, separated. -/
def writeItems (L : Layout) : List Value → Option Text
  | [] => some []
  | [x] => write L x
  | x :: xs => do
    let a ← write L x
    let b ← writeItems L xs
    pure (a ++ L.itemSep ++ b)

/-- The entries of an object, separated. -/
def writeEntries (L : Layout) : List (Text × Value) → Option Text
  | [] => some []
  | [(k, v)] => (write L v).map (fun b => quote k ++ L.keySep ++ b)
  | (k, v) :: es => do
    let b ← write L v
    let rest ← writeEntries L es
    pure (quote k ++ L.keySep ++ b ++ L.itemSep ++ rest)

end

end Json

end Templating
