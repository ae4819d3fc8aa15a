import Templating.Number.Shortest
import Templating.Text.Basic
/-!
# Doubles as text

A double is written with its shortest digits (`Binary64.shortest`). Where those digits
stand is one decision of layout, made once in `FloatLayout.standard`: with the decimal
point `point` places after the first digit position, the number is written positionally
when `-4 < point ≤ 16`, so from `0.0001` up to `9999999999999998.0`, and otherwise as a
mantissa with one digit before the point and an exponent of at least two digits with its
sign: `1e-05`, `1e+16`, `1.2345678901234568e+17`. An integral value written positionally
keeps a `.0`. Zeros keep their sign, `-0.0`.

JSON text writes the same digits but spells the non-finite values `NaN`, `Infinity` and
`-Infinity` (`FloatLayout.json`).
-/

namespace Templating

/-- How a double is laid out as text. -/
structure FloatLayout where
  /-- Positional notation needs `pointLow < point`. -/
  pointLow : Int
  /-- Positional notation needs `point ≤ pointHigh`. -/
  pointHigh : Int
  /-- The least number of exponent digits. -/
  expDigits : Nat
  /-- The text of a NaN. -/
  nanText : Text
  /-- The text of positive infinity; negative infinity has a minus sign before it. -/
  infText : Text

namespace FloatLayout

/-- The layout of numbers in program text and messages. -/
def standard : FloatLayout := ⟨-4, 16, 2, Text.ofString "nan", Text.ofString "inf"⟩

/-- The layout of numbers in JSON documents. -/
def json : FloatLayout := { standard with nanText := Text.ofString "NaN", infText := Text.ofString "Infinity" }

/-- `n` zeros. -/
def zeros (n : Nat) : Text := List.replicate n 0x30

/-- The digits `ds` of a positive value whose decimal point stands `point` places after
the first digit position. -/
def layDigits (L : FloatLayout) (ds : Text) (point : Int) : Text :=
  if L.pointLow < point ∧ point ≤ L.pointHigh then
    if point ≤ 0 then Text.ofString "0." ++ zeros (-point).toNat ++ ds
    else if point < ds.length then ds.take point.toNat ++ [0x2E] ++ ds.drop point.toNat
    else ds ++ zeros (point.toNat - ds.length) ++ Text.ofString ".0"
  else
    let mantissa := ds.take 1 ++ (if ds.length > 1 then 0x2E :: ds.drop 1 else [])
    let e := point - 1
    let digits := Text.decimal e.natAbs
    mantissa ++ [0x65, if e < 0 then 0x2D else 0x2B] ++ zeros (L.expDigits - digits.length) ++ digits

end FloatLayout

namespace Binary64

/-- The text of a double in the given layout. -/
def render (L : FloatLayout) (x : Binary64) : Text :=
  let sign : Text := if x.signBit then [0x2D] else []
  match x.shape with
  | .nan => L.nanText
  | .infinite neg => (if neg then [0x2D] else []) ++ L.infText
  | .finite _ 0 => sign ++ Text.ofString "0.0"
  | .finite _ _ =>
    let d := x.shortest
    let ds := Text.decimal d.digits
    sign ++ L.layDigits ds (d.exp + ds.length)

/-- The text of a double in program text and messages. -/
def toText (x : Binary64) : Text := render FloatLayout.standard x

end Binary64

end Templating
