import Templating.Text.Basic
/-!
# Decimal digits

A decimal digit is a code point of general category Nd. In Unicode 14.0 there are 660,
in 66 runs of ten consecutive code points with the values 0 to 9 in order, so a digit is
known by the first code point of its run (its zero) and its offset from it. Numbers
written with any of these digits read the same as with ASCII digits.
-/

namespace Templating.Text

/-! ## Data -/

/-- The zero of every run of decimal digits, in increasing order. -/
def digitZeros : List Nat := [
  48, 1632, 1776, 1984, 2406, 2534, 2662, 2790, 2918, 3046,
  3174, 3302, 3430, 3558, 3664, 3792, 3872, 4160, 4240, 6112,
  6160, 6470, 6608, 6784, 6800, 6992, 7088, 7232, 7248, 42528,
  43216, 43264, 43472, 43504, 43600, 44016, 65296, 66720, 68912, 69734,
  69872, 69942, 70096, 70384, 70736, 70864, 71248, 71360, 71472, 71904,
  72016, 72784, 73040, 73120, 92768, 92864, 93008, 120782, 120792, 120802,
  120812, 120822, 123200, 123632, 125264, 130032]

/-! ## Algorithm -/

/-- The value of a decimal digit. -/
def digitValue? (c : Nat) : Option Nat :=
  (digitZeros.find? (fun z => z ≤ c && c < z + 10)).map (fun z => c - z)

/-- Whether a code point is a decimal digit. -/
def isDigit (c : Nat) : Bool := (digitValue? c).isSome

/-- Whether a code point is one of the ASCII digits 0 to 9. -/
def isAsciiDigit (c : Nat) : Bool := 0x30 ≤ c && c ≤ 0x39

end Templating.Text
