import Templating.Text.Basic
/-!
# Blank code points

A code point is blank when the Unicode character database gives it the general category
Zs or the bidirectional class B, S or WS. That is 29 code points in Unicode 14.0: the
controls tab to carriage return, the information separators 0x1C to 0x1F, the space, next
line (0x85), the no-break spaces, the spaces of 0x2000 to 0x200A, the line and paragraph
separators, and a few more. The zero width space 0x200B is not blank.

Trimming removes blank code points at both ends of a text.
-/

namespace Templating.Text

/-! ## Data -/

/-- The blank code points, in increasing order. -/
def blanks : List Nat :=
  [9, 10, 11, 12, 13, 28, 29, 30, 31, 32, 133, 160, 5760, 8192, 8193, 8194, 8195, 8196, 8197, 8198, 8199, 8200, 8201, 8202, 8232, 8233, 8239, 8287, 12288]

/-! ## Algorithm -/

/-- Whether a code point is blank. -/
def isBlank (c : Nat) : Bool := blanks.contains c

/-- The text without its leading and trailing blank code points. -/
def trim (t : Text) : Text := ((t.dropWhile isBlank).reverse.dropWhile isBlank).reverse

/-- Whether a text is empty or blank throughout. -/
def isAllBlank (t : Text) : Bool := t.all isBlank

end Templating.Text
