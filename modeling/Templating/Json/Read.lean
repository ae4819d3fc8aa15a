import Templating.Value.Basic
import Templating.Number.Reading
import Templating.Json.Write
/-!
# Reading JSON

JSON text read into values, the way a strict decoder with a few extensions reads it:

* whitespace is space, tab, newline and return only;
* numbers are integers (`-? (0 | [1-9][0-9]*)`) unless a fraction (`.` and a digit) or an
  exponent (`e`, an optional sign, digits) follows; then they are doubles. An exponent
  or fraction that is cut short is not part of the number;
* `NaN`, `Infinity` and `-Infinity` are read as doubles;
* strings may not hold raw controls below 0x20. The escapes are `\" \\ \/ \b \f \n \r \t`
  and `\uhhhh`; a high surrogate escape followed by a low surrogate escape is one code
  point, any other surrogate escape stands alone;
* an object keeps its keys in first-appearance order, the last value of a key winning;
* a text starting with a byte order mark is refused.

Each failure names its reason and the position (code point index) where it was found;
the message adds line and column, both counted from 1. An integer of more than
`digitLimit` digits is refused with its own error.

The reader follows the nesting of the text, which is never deeper than the text is long;
`fuel` counts the steps along the current chain of calls and is given from the length.
A reader may allow less nesting (`readWithin`): an array or object that opens deeper is
refused before anything in it is read.
-/

namespace Templating

namespace Json

/-- Why a JSON text cannot be read. -/
inductive Reason where
  | expectingValue
  | expectingPropertyName
  | expectingColon
  | expectingComma
  | unterminatedString
  | invalidControl
  | invalidEscape
  | invalidUnicodeEscape
  | extraData
  | byteOrderMark
deriving DecidableEq

/-- The wording of a reason. -/
def Reason.text : Reason → Text
  | .expectingValue => Text.ofString "Expecting value"
  | .expectingPropertyName => Text.ofString "Expecting property name enclosed in double quotes"
  | .expectingColon => Text.ofString "Expecting ':' delimiter"
  | .expectingComma => Text.ofString "Expecting ',' delimiter"
  | .unterminatedString => Text.ofString "Unterminated string starting at"
  | .invalidControl => Text.ofString "Invalid control character at"
  | .invalidEscape => Text.ofString "Invalid \\escape"
  | .invalidUnicodeEscape => Text.ofString "Invalid \\uXXXX escape"
  | .extraData => Text.ofString "Extra data"
  | .byteOrderMark => Text.ofString "Unexpected UTF-8 BOM (decode using utf-8-sig)"

/-- A failure to read JSON text. -/
inductive ReadError where
  /-- The text is not JSON: the reason, the line and column (from 1) and the index. -/
  | malformed (reason : Reason) (line column pos : Nat)
  /-- An integer with more digits (`count`) than `digitLimit`. -/
  | tooManyDigits (count : Nat)
  /-- An array (or object) opens deeper than the nesting the reader allows. -/
  | tooDeep (array : Bool)
deriving DecidableEq

/-- The end of the message of a text that nests too deeply, naming the container that
opened one level too deep. -/
def depthSite (array : Bool) : Text :=
  Text.ofString " while decoding a JSON " ++ Text.ofString (if array then "array" else "object") ++
    Text.ofString " from a unicode string"

/-- The message of a failure. -/
def ReadError.message : ReadError → Text
  | .malformed r line column pos =>
    r.text ++ Text.ofString ": line " ++ Text.decimal line ++ Text.ofString " column " ++
      Text.decimal column ++ Text.ofString " (char " ++ Text.decimal pos ++ Text.ofString ")"
  | .tooManyDigits n => readLimitMessage n
  | .tooDeep a => Text.ofString "maximum recursion depth exceeded" ++ depthSite a

/-- The failure for `r` at index `pos` of `doc`. -/
def malformedAt (doc : Text) (r : Reason) (pos : Nat) : ReadError :=
  let before := doc.take pos
  let line := before.count 0x0A + 1
  let column := match (before.reverse.findIdx? (· = 0x0A)) with
    | some i => i + 1
    | none => pos + 1
  .malformed r line column pos

/-- Whether a code point is JSON whitespace. -/
def isSpace (c : Nat) : Bool := c = 0x20 || c = 0x09 || c = 0x0A || c = 0x0D

/-- Skip whitespace, keeping the index. -/
def skipSpace (s : Text) (pos : Nat) : Text × Nat :=
  let r := s.dropWhile isSpace
  (r, pos + (s.length - r.length))

/-! ## Numbers -/

/-- Whether a code point is an ASCII digit. -/
def isDigit (c : Nat) : Bool := 0x30 ≤ c && c ≤ 0x39

/-- The fraction `. digits` at the head, kept only when a digit follows the point. -/
def fractionPart : Text → Text
  | 0x2E :: d :: rest => if isDigit d then 0x2E :: d :: (rest.takeWhile isDigit) else []
  | _ => []

/-- The exponent `e sign? digits` at the head, kept only when it has a digit. A sign is
only taken when something follows it. -/
def exponentPart : Text → Text
  | e :: rest =>
    if (e = 0x65 || e = 0x45) && rest.length ≥ 1 then
      let (sign, r) := match rest with
        | s :: r@(_ :: _) => if s = 0x2B || s = 0x2D then ([s], r) else ([], rest)
        | _ => ([], rest)
      let ds := r.takeWhile isDigit
      if ds.isEmpty then [] else e :: sign ++ ds
    else []
  | [] => []

/-- A number at the head of `s` (index `pos`), or none when there is none. -/
def number? (s : Text) (pos : Nat) : Option (Except ReadError (Value × Text × Nat)) :=
  let (minus, r) := match s with
    | 0x2D :: r => ([0x2D], r)
    | _ => ([], s)
  let whole := match r with
    | 0x30 :: _ => [0x30]
    | c :: rest => if 0x31 ≤ c && c ≤ 0x39 then c :: rest.takeWhile isDigit else []
    | [] => []
  if whole.isEmpty then none else
  let r := r.drop whole.length
  let frac := fractionPart r
  let r := r.drop frac.length
  let exp := exponentPart r
  let r := r.drop exp.length
  let text := minus ++ whole ++ frac ++ exp
  let next := (r, pos + text.length)
  if frac.isEmpty && exp.isEmpty then
    if digitLimit < whole.length then some (.error (.tooManyDigits whole.length))
    else
      let n : Int := Reading.digitsValue whole
      some (.ok (.int (if minus.isEmpty then n else -n), next))
  else
    some (.ok (.float ((Reading.readFloat? text).getD Binary64.nan), next))

/-! ## Strings -/

/-- The code point of a `\u` escape whose `u` is at index `upos` and whose digits start
`rest`, with what follows it; a high surrogate joined with a following low surrogate
escape. Four digits must be followed by at least one more code point. -/
def unicodeEscape? (doc : Text) (rest : Text) (upos : Nat) : Except ReadError (Nat × Text × Nat) :=
  if rest.length ≤ 4 then .error (malformedAt doc .invalidUnicodeEscape upos) else
  match Text.hex4? (rest.take 4) with
  | none => .error (malformedAt doc .invalidUnicodeEscape upos)
  | some c =>
    let after := rest.drop 4
    if 0xD800 ≤ c ∧ c ≤ 0xDBFF ∧ after.length > 6 ∧ after.take 2 = [0x5C, 0x75] then
      match Text.hex4? ((after.drop 2).take 4) with
      | none => .error (malformedAt doc .invalidUnicodeEscape (upos + 6))
      | some c2 =>
        if 0xDC00 ≤ c2 ∧ c2 ≤ 0xDFFF then
          .ok (0x10000 + (c - 0xD800) * 0x400 + (c2 - 0xDC00), after.drop 6, upos + 11)
        else .ok (c, after, upos + 5)
    else .ok (c, after, upos + 5)

/-- The body of a string after its opening quote (at index `start`): the code points read
so far in reverse in `acc`, the rest from index `pos`. -/
def stringBody (doc : Text) (start : Nat) : (fuel : Nat) → (acc : Text) → Text → Nat →
    Except ReadError (Text × Text × Nat)
  | 0, _, _, pos => .error (malformedAt doc .unterminatedString pos)
  | _ + 1, _, [], _ => .error (malformedAt doc .unterminatedString start)
  | fuel + 1, acc, c :: rest, pos =>
    if c = 0x22 then .ok (acc.reverse, rest, pos + 1)
    else if c = 0x5C then
      match rest with
      | [] => .error (malformedAt doc .unterminatedString start)
      | 0x75 :: digits => do
        let (code, rest', pos') ← unicodeEscape? doc digits (pos + 1)
        stringBody doc start fuel (code :: acc) rest' pos'
      | e :: rest' =>
        let mapped := if e = 0x22 then some 0x22 else if e = 0x5C then some 0x5C
          else if e = 0x2F then some 0x2F else if e = 0x62 then some 0x08
          else if e = 0x66 then some 0x0C else if e = 0x6E then some 0x0A
          else if e = 0x72 then some 0x0D else if e = 0x74 then some 0x09 else none
        match mapped with
        | some m => stringBody doc start fuel (m :: acc) rest' (pos + 2)
        | none => .error (malformedAt doc .invalidEscape pos)
    else if c ≤ 0x1F then .error (malformedAt doc .invalidControl pos)
    else stringBody doc start fuel (c :: acc) rest (pos + 1)

/-! ## Values -/

mutual

/-- A value at the head of `s` (index `pos`), inside `depth` open containers of at most
`limit`. -/
def value (doc : Text) (limit depth : Nat) :
    (fuel : Nat) → Text → Nat → Except ReadError (Value × Text × Nat)
  | 0, _, pos => .error (malformedAt doc .expectingValue pos)
  | fuel + 1, s, pos =>
    match s with
    | 0x22 :: rest => do
      let (t, r, p) ← stringBody doc pos (rest.length + 1) [] rest (pos + 1)
      pure (.str t, r, p)
    | 0x7B :: rest =>
      if limit ≤ depth then .error (.tooDeep false) else
      let (r, p) := skipSpace rest (pos + 1)
      match r with
      | 0x7D :: r' => .ok (.object [], r', p + 1)
      | _ => entries doc limit (depth + 1) fuel [] r p
    | 0x5B :: rest =>
      if limit ≤ depth then .error (.tooDeep true) else
      let (r, p) := skipSpace rest (pos + 1)
      match r with
      | 0x5D :: r' => .ok (.list [], r', p + 1)
      | _ => items doc limit (depth + 1) fuel [] r p
    | _ =>
      let word (w : String) (v : Value) : Option (Except ReadError (Value × Text × Nat)) :=
        let t := Text.ofString w
        if s.take t.length = t then some (.ok (v, s.drop t.length, pos + t.length)) else none
      let special := (word "null" .null).orElse fun _ => (word "true" (.bool true)).orElse fun _ =>
        (word "false" (.bool false)).orElse fun _ => (word "NaN" (.float Binary64.nan)).orElse fun _ =>
        (word "Infinity" (.float (Binary64.infinity false))).orElse fun _ =>
        word "-Infinity" (.float (Binary64.infinity true))
      match special with
      | some r => r
      | none =>
        match number? s pos with
        | some r => r
        | none => .error (malformedAt doc .expectingValue pos)

/-- The items of an array from its first item on; `acc` holds those read, in reverse. -/
def items (doc : Text) (limit depth : Nat) :
    (fuel : Nat) → List Value → Text → Nat → Except ReadError (Value × Text × Nat)
  | 0, _, _, pos => .error (malformedAt doc .expectingValue pos)
  | fuel + 1, acc, s, pos => do
    let (v, r, p) ← value doc limit depth fuel s pos
    let (r, p) := skipSpace r p
    match r with
    | 0x5D :: r' => .ok (.list (v :: acc).reverse, r', p + 1)
    | 0x2C :: r' =>
      let (r'', p') := skipSpace r' (p + 1)
      items doc limit depth fuel (v :: acc) r'' p'
    | _ => .error (malformedAt doc .expectingComma p)

/-- The entries of an object from its first key on; `acc` holds those read. -/
def entries (doc : Text) (limit depth : Nat) :
    (fuel : Nat) → Entries → Text → Nat → Except ReadError (Value × Text × Nat)
  | 0, _, _, pos => .error (malformedAt doc .expectingValue pos)
  | fuel + 1, acc, s, pos =>
    match s with
    | 0x22 :: rest => do
      let (k, r, p) ← stringBody doc pos (rest.length + 1) [] rest (pos + 1)
      let (r, p) := skipSpace r p
      match r with
      | 0x3A :: r' =>
        let (r'', p') := skipSpace r' (p + 1)
        let (v, r, p) ← value doc limit depth fuel r'' p'
        let acc := Entries.set acc k v
        let (r, p) := skipSpace r p
        match r with
        | 0x7D :: r' => .ok (.object acc, r', p + 1)
        | 0x2C :: r' =>
          let (r'', p') := skipSpace r' (p + 1)
          entries doc limit depth fuel acc r'' p'
        | _ => .error (malformedAt doc .expectingComma p)
      | _ => .error (malformedAt doc .expectingColon p)
    | _ => .error (malformedAt doc .expectingPropertyName pos)

end

/-- Read a JSON text whose arrays and objects nest at most `limit` deep. -/
def readWithin (limit : Nat) (doc : Text) : Except ReadError Value :=
  if doc.head? = some 0xFEFF then .error (malformedAt doc .byteOrderMark 0) else
  let (s, pos) := skipSpace doc 0
  match value doc limit 0 (2 * doc.length + 2) s pos with
  | .error e => .error e
  | .ok (v, r, p) =>
    let (r, p) := skipSpace r p
    if r.isEmpty then .ok v else .error (malformedAt doc .extraData p)

/-- Read a JSON text, nested as deeply as it is: a text never nests deeper than it is long. -/
def read (doc : Text) : Except ReadError Value := readWithin doc.length doc

end Json

end Templating
