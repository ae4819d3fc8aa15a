import Templating.Number.Binary64
import Templating.Number.IntText
import Templating.Text.Blank
import Templating.Text.Digit
/-!
# Reading numbers from text

Numbers are read from text written by people, in any script: beyond ASCII, every
decimal digit (`Text.digitValue?`) counts as the digit of its value, and every blank code
point as a space. ASCII code points are read as they are, so of the ASCII controls only
tab to carriage return are spaces; the information separators 0x1C to 0x1F, blank for
trimming, are not. After that mapping, which turns any other non-ASCII code point into a
character that no number contains, the text is read as ASCII:

* an integer is `space* sign? digits space*`, where single underscores may stand between
  digits. The digit limit is checked once the digits are scanned and before anything
  after them, so a long number with junk after it is refused for its length;
* a double is `sign? digits? (. digits?)? (e sign? digits)?` with at least one digit, or
  `sign? (inf | infinity | nan)` in any case, with spaces around it. Underscores may
  stand only between two digits and are dropped. An exponent without digits is not
  part of the number, and then the text is not a number.
-/

namespace Templating

namespace Reading

/-! ## Common steps -/

/-- A code point as ASCII reading sees it: ASCII code points below DEL stay, and beyond
them decimal digits become ASCII digits, blanks become spaces and all else becomes `?`. -/
def asciiView (c : Nat) : Nat :=
  if c < 0x7F then c else
  match Text.digitValue? c with
  | some d => 0x30 + d
  | none => if Text.isBlank c then 0x20 else 0x3F

/-- Whether an ASCII code point is a space after the mapping (space, tab to return). -/
def isSpace (c : Nat) : Bool := c = 0x20 || (0x09 ≤ c && c ≤ 0x0D)

/-- Whether an ASCII code point is a digit. -/
def isDigit (c : Nat) : Bool := 0x30 ≤ c && c ≤ 0x39

/-- The value of ASCII digits, most significant first. -/
def digitsValue (ds : Text) : Nat := ds.foldl (fun acc c => 10 * acc + (c - 0x30)) 0

/-- An optional sign: whether it was a minus, and the rest. -/
def takeSign : Text → Bool × Text
  | 0x2D :: rest => (true, rest)
  | 0x2B :: rest => (false, rest)
  | t => (false, t)

/-! ## Integers -/

/-- Why text is not an integer. -/
inductive IntError where
  /-- The text is not an integer. -/
  | invalid
  /-- The integer has more digits (`count`) than `digitLimit`. -/
  | tooManyDigits (count : Nat)
deriving DecidableEq

/-- The digits of a run of digits with single underscores between them, and the rest;
`after` tells whether the last code point taken was an underscore. None when two
underscores meet. -/
def scanDigits : Text → (acc : Text) → (underscore : Bool) → Option (Text × Text × Bool)
  | [], acc, u => some (acc.reverse, [], u)
  | c :: rest, acc, u =>
    if isDigit c then scanDigits rest (c :: acc) false
    else if c = 0x5F then (if u then none else scanDigits rest acc true)
    else some (acc.reverse, c :: rest, u)

/-- Read an integer in base ten. -/
def readInt (t : Text) : Except IntError Int :=
  let s := (t.map asciiView).dropWhile isSpace
  let (neg, s) := takeSign s
  if s.head? = some 0x5F then .error .invalid else
  match scanDigits s [] false with
  | none => .error .invalid
  | some (_, _, true) => .error .invalid
  | some (ds, rest, false) =>
    if digitLimit < ds.length then .error (.tooManyDigits ds.length)
    else if ds.isEmpty then .error .invalid
    else if !(rest.all isSpace) then .error .invalid
    else .ok (if neg then -(digitsValue ds : Int) else digitsValue ds)

/-! ## Doubles -/

/-- Drop the underscores of a text in which each stands between two digits; none when one
does not. `prev` is the code point before the rest. -/
def dropUnderscores : Text → (prev : Nat) → Option Text
  | [], _ => some []
  | c :: rest, prev =>
    if c = 0x5F then
      if isDigit prev && (rest.head?.any isDigit) then dropUnderscores rest c else none
    else (dropUnderscores rest c).map (c :: ·)

/-- The code point in lower case, for ASCII letters. -/
def lowerAscii (c : Nat) : Nat := if 0x41 ≤ c && c ≤ 0x5A then c + 32 else c

/-- Whether the text, ignoring ASCII case, is the given word. -/
def isWord (t : Text) (w : String) : Bool := t.map lowerAscii = Text.ofString w

/-- The special values `inf`, `infinity` and `nan`, with an optional sign. -/
def special? (t : Text) : Option Binary64 :=
  let (neg, w) := takeSign t
  if isWord w "inf" || isWord w "infinity" then some (Binary64.infinity neg)
  else if isWord w "nan" then some Binary64.nan
  else none

/-- The double nearest to `±digits · 10^exp`. Values of `10^310` or more are infinite and
values below `10^-330` are zero, with no power of ten computed for them. -/
def ofDecimal (neg : Bool) (digits : Nat) (exp : Int) : Binary64 :=
  if digits = 0 then Binary64.zero neg else
  let size : Int := (Text.decimal digits).length
  if 310 < size + exp then Binary64.infinity neg
  else if size + exp < -330 then Binary64.zero neg
  else if 0 ≤ exp then
    Binary64.ofRatio neg (digits * Nat.pow 10 exp.toNat * Binary64.unitScale) 1
  else Binary64.ofRatio neg (digits * Binary64.unitScale) (Nat.pow 10 (-exp).toNat)

/-- The exponent part `e sign? digits` at the head of a text; none when there is none. -/
def exponentPart? : Text → Option (Int × Text)
  | e :: rest =>
    if e = 0x65 || e = 0x45 then
      let (neg, r) := takeSign rest
      let ds := r.takeWhile isDigit
      if ds.isEmpty then none
      else some ((if neg then -(digitsValue ds : Int) else digitsValue ds), r.dropWhile isDigit)
    else none
  | [] => none

/-- A decimal number, read as far as it goes: the double and the rest of the text. -/
def decimalPrefix? (t : Text) : Option (Binary64 × Text) :=
  let (neg, s) := takeSign t
  let whole := s.takeWhile isDigit
  let s := s.dropWhile isDigit
  let (frac, s) := match s with
    | 0x2E :: r => (r.takeWhile isDigit, r.dropWhile isDigit)
    | _ => ([], s)
  if whole.isEmpty && frac.isEmpty then none else
  let (exp, s) := (exponentPart? s).getD (0, s)
  some (ofDecimal neg (digitsValue (whole ++ frac)) (exp - frac.length), s)

/-- Read a double. -/
def readFloat? (t : Text) : Option Binary64 :=
  let s := t.map asciiView
  let s := if s.contains 0x5F then dropUnderscores s 0 else some s
  s.bind fun s =>
    let s := ((s.dropWhile isSpace).reverse.dropWhile isSpace).reverse
    match decimalPrefix? s with
    | some (x, []) => some x
    | some _ => none
    | none => special? s

end Reading

end Templating
