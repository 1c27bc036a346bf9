import IrMachine.Number.Shortest

/-!
# Texts of floating point numbers

Two ways to write a number, both with its shortest digits. The plain style never uses an exponent
and writes whole numbers without a point. The detailed style of dumps marks whole numbers with `.0`
and moves to an exponent for magnitudes below `10 ^ -4` and from `10 ^ 16` on.
-/

namespace IrMachine

/-- Decisions about how a number is written. -/
structure FloatStyle where
  /-- What follows a whole number in positional form. -/
  wholeMark : String
  /-- Decimal exponents `(low, high)`: magnitudes below `10 ^ low`, and those from `10 ^ high` on,
  are written with an exponent. -/
  positional : Option (Int × Int)

namespace FloatStyle

/-- No exponent, and no mark on whole numbers. -/
def plain : FloatStyle := ⟨"", none⟩

/-- The style of dumps. -/
def detailed : FloatStyle := ⟨".0", some (-4, 16)⟩

/-- Digits with the decimal point after the first `point` of them; `point` may lie outside. -/
def placePoint (style : FloatStyle) (digits : List Char) (point : Int) : String :=
  if point ≤ 0 then
    "0." ++ String.ofList (List.replicate (-point).toNat '0' ++ digits)
  else if digits.length ≤ point.toNat then
    String.ofList (digits ++ List.replicate (point.toNat - digits.length) '0') ++ style.wholeMark
  else
    String.ofList (digits.take point.toNat) ++ "." ++ String.ofList (digits.drop point.toNat)

/-- Digits with the point after the first one, and the exponent that this calls for. -/
def scientific (digits : List Char) (point : Int) : String :=
  let tail := digits.drop 1
  String.ofList (digits.take 1) ++ (if tail.isEmpty then "" else "." ++ String.ofList tail) ++
    "e" ++ toString (point - 1)

def decimal (style : FloatStyle) (value : Decimal) : String :=
  let digits := Nat.toDigits 10 value.coefficient
  let point := digits.length + value.power
  match style.positional with
  | none => style.placePoint digits point
  | some (low, high) =>
      if point ≤ low ∨ high < point then scientific digits point
      else style.placePoint digits point

def render (style : FloatStyle) (format : BinaryFormat) (negative : Bool) : Reading → String
  | .nan => "NaN"
  | .infinite => if negative then "-inf" else "inf"
  | .finite significand exponent =>
      (if negative then "-" else "") ++
        if significand = 0 then "0" ++ style.wholeMark
        else style.decimal (Decimal.shortest format significand exponent)

end FloatStyle

def Single.text (x : Single) : String :=
  FloatStyle.plain.render .single x.negative x.reading

def Double.text (x : Double) : String :=
  FloatStyle.plain.render .double x.negative x.reading

/-- The text of a number of double precision in dumps. -/
def Double.describe (x : Double) : String :=
  FloatStyle.detailed.render .double x.negative x.reading

end IrMachine
