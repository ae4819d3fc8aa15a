import Templating.Text.Basic
/-!
# Integers as text, within a digit limit

Integers are unbounded, but writing one as decimal text, or reading one from text, is
refused beyond `digitLimit` = 4300 digits: quadratic-time conversions of huge numbers
are a denial-of-service risk, and the limit makes their cost bounded. The sign does not
count as a digit. The two refusals have their own messages (`limitMessage`,
`readLimitMessage`).
-/

namespace Templating

/-- The most decimal digits an integer may have as text. -/
def digitLimit : Nat := 4300

/-- The message when an integer has too many digits to be written. -/
def limitMessage : Text :=
  Text.ofString "Exceeds the limit (4300 digits) for integer string conversion; use sys.set_int_max_str_digits() to increase the limit"

/-- The message when text with `count` digits is too long to be read as an integer. -/
def readLimitMessage (count : Nat) : Text :=
  Text.ofString "Exceeds the limit (4300 digits) for integer string conversion: value has " ++
    Text.decimal count ++ Text.ofString " digits; use sys.set_int_max_str_digits() to increase the limit"

/-- The decimal text of an integer, with a leading `-` when negative; none beyond the
digit limit. -/
def Int.toText? (n : Int) : Option Text :=
  if n.natAbs < Nat.pow 10 digitLimit then
    some ((if n < 0 then [0x2D] else []) ++ Text.decimal n.natAbs)
  else none

/-- The decimal text of an integer with no limit (for the wire format of answers). -/
def Int.toTextUnbounded (n : Int) : Text :=
  (if n < 0 then [0x2D] else []) ++ Text.decimal n.natAbs

end Templating
