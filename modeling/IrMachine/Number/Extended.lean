import IrMachine.Bytes
import IrMachine.Number.Text

/-!
# The 80-bit extended format

An extended number is a sign and a 15-bit exponent in one word, and a 64-bit fraction whose highest
bit is the integer bit, which other formats leave out. Widening a double is exact. Narrowing goes
through rounded products, so that a fraction is rounded to double precision before it is scaled.
-/

namespace IrMachine

/-- A number of the 80-bit extended format. -/
structure Float80 where
  /-- The sign in the highest bit, the biased exponent in the others. -/
  signExponent : UInt16
  /-- The significand, with an explicit integer bit. -/
  fraction : UInt64
deriving DecidableEq, Inhabited

namespace Float80

def zero : Float80 := ⟨0, 0⟩

/-- The sign in the exponent word. -/
def signBit : UInt16 := 0x8000

/-- The exponent of infinities and NaNs. -/
def exponentMask : UInt16 := 0x7FFF

/-- What the stored exponent exceeds the true one by. -/
def exponentBias : Int := 16383

/-- The explicit integer bit of the fraction. -/
def integerBit : UInt64 := 0x8000000000000000

def exponent (x : Float80) : UInt16 := x.signExponent &&& exponentMask

def negative (x : Float80) : Bool := x.signExponent &&& signBit != 0

/-- The ten bytes that store the number: the fraction, then the exponent word. -/
def toBytes (x : Float80) : Bytes :=
  LittleEndian.encode 8 x.fraction.toNat ++ LittleEndian.encode 2 x.signExponent.toNat

def ofBytes (bytes : Bytes) : Float80 :=
  { fraction := UInt64.ofNat (LittleEndian.decode (bytes.take 8))
    signExponent := UInt16.ofNat (LittleEndian.decode (bytes.drop 8)) }

/-- The number of zero bits above the highest set bit of a 64-bit word. -/
def leadingZeros (word : UInt64) : Nat := if word = 0 then 64 else 63 - word.toNat.log2

/-- A double in the extended format. Subnormal doubles become normal numbers. -/
def ofDouble (x : Double) : Float80 :=
  let sign := if x.negative then signBit else 0
  let field := BinaryFormat.double.exponentField x.bits.toNat
  let mantissa := UInt64.ofNat (BinaryFormat.double.fraction x.bits.toNat)
  if field = 0 then
    if mantissa = 0 then ⟨sign, 0⟩
    else
      let shift := leadingZeros mantissa
      ⟨sign ||| UInt16.ofNat (15372 - shift), mantissa <<< UInt64.ofNat shift⟩
  else if field = 0x7FF then
    ⟨sign ||| exponentMask, integerBit ||| (mantissa <<< 11)⟩
  else
    ⟨sign ||| UInt16.ofNat (field + 16383 - 1023), integerBit ||| (mantissa <<< 11)⟩

/-- Whether the number is an infinity; the integer bit does not matter. -/
def isInfinite (x : Float80) : Bool :=
  x.exponent == exponentMask && x.fraction &&& ~~~integerBit == 0

/-- The absolute value in double precision: the fraction is rounded first and then scaled in two
steps, each of which rounds. -/
def magnitude (x : Float80) : Double :=
  if x.exponent = exponentMask then
    if x.fraction &&& ~~~integerBit = 0 then .infinity else .nan
  else if x.exponent = 0 ∧ x.fraction = 0 then
    ⟨0⟩
  else
    let scale := (x.exponent.toNat : Int) - exponentBias - 63
    let half := scale.tdiv 2
    ((Double.ofScaled false x.fraction.toNat 0).mul (.pow2 half)).mul (.pow2 (scale - half))

def toDouble (x : Float80) : Double := if x.negative then x.magnitude.neg else x.magnitude

/-- The plain text of the number in double precision. -/
def text (x : Float80) : String := x.toDouble.text

end Float80

end IrMachine
