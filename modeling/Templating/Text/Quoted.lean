import Templating.Text.Printable
/-!
# Quoted text

The quoted form of a text, as a programmer would write it as a literal: in single quotes,
or in double quotes when the text holds a single quote and no double quote. Inside, the
chosen quote and the backslash are escaped with a backslash, tab, newline and carriage
return are written `\t`, `\n`, `\r`, and every other code point that is not printable is
written as a hexadecimal escape: `\xhh` up to 0xFF, `\uhhhh` up to 0xFFFF, `\Uhhhhhhhh`
beyond. Printable code points, ASCII or not, stand for themselves.
-/

namespace Templating.Text

/-! ## Algorithm -/

/-- The quote character: `"` when the text holds `'` and no `"`, otherwise `'`. -/
def quoteChar (t : Text) : Nat :=
  if t.contains 0x27 && !t.contains 0x22 then 0x22 else 0x27

/-- How one code point is written between quotes `q`. -/
def escapeFor (q : Nat) (c : Nat) : Text :=
  if c = q || c = 0x5C then [0x5C, c]
  else if c = 0x09 then ofString "\\t"
  else if c = 0x0A then ofString "\\n"
  else if c = 0x0D then ofString "\\r"
  else if c < 0x20 || c = 0x7F then ofString "\\x" ++ hex 2 c
  else if c < 0x7F then [c]
  else if isPrintable c then [c]
  else if c ≤ 0xFF then ofString "\\x" ++ hex 2 c
  else if c ≤ 0xFFFF then ofString "\\u" ++ hex 4 c
  else ofString "\\U" ++ hex 8 c

/-- The quoted form of a text. -/
def quote (t : Text) : Text :=
  let q := quoteChar t
  q :: t.flatMap (escapeFor q) ++ [q]

end Templating.Text
