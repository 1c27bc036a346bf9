/-!
# Binary floating point on bit patterns

Single and double precision numbers are kept as their bit patterns, so that a NaN keeps its payload
wherever it is only moved. Arithmetic goes through exact integers: a finite pattern is read as
`significand * 2 ^ exponent`, and `BinaryFormat.round` is the one place where an exact value becomes
a pattern again, to nearest with ties to even.
-/

namespace IrMachine

/-- A binary interchange format: widths of the stored fraction and of the exponent field. -/
structure BinaryFormat where
  fractionBits : Nat
  exponentBits : Nat

/-- What a bit pattern denotes, apart from its sign. -/
inductive Reading where
  | nan
  | infinite
  /-- The value `significand * 2 ^ exponent`. -/
  | finite (significand : Nat) (exponent : Int)
deriving DecidableEq

/-- `significand / 2 ^ shift`, to nearest and with ties to even. -/
def roundShift (significand shift : Nat) : Nat :=
  let unit := 1 <<< shift
  let quotient := significand >>> shift
  let twice := 2 * (significand % unit)
  if unit < twice ∨ (unit = twice ∧ quotient % 2 = 1) then quotient + 1 else quotient

namespace BinaryFormat

def single : BinaryFormat := ⟨23, 8⟩

def double : BinaryFormat := ⟨52, 11⟩

/-- The exponent of the least subnormal number. -/
def minExponent (format : BinaryFormat) : Int :=
  2 - (1 <<< (format.exponentBits - 1) : Nat) - format.fractionBits

def infinity (format : BinaryFormat) : Nat :=
  (1 <<< format.exponentBits - 1) <<< format.fractionBits

def signBit (format : BinaryFormat) : Nat := 1 <<< (format.fractionBits + format.exponentBits)

def fraction (format : BinaryFormat) (pattern : Nat) : Nat := pattern % (1 <<< format.fractionBits)

def exponentField (format : BinaryFormat) (pattern : Nat) : Nat :=
  (pattern >>> format.fractionBits) % (1 <<< format.exponentBits)

def negative (format : BinaryFormat) (pattern : Nat) : Bool :=
  pattern / format.signBit % 2 == 1

/-- What a pattern denotes, apart from its sign. -/
def read (format : BinaryFormat) (pattern : Nat) : Reading :=
  let fraction := format.fraction pattern
  let field := format.exponentField pattern
  if field = 1 <<< format.exponentBits - 1 then
    if fraction = 0 then .infinite else .nan
  else if field = 0 then
    .finite fraction format.minExponent
  else
    .finite (1 <<< format.fractionBits + fraction) (format.minExponent + (field - 1 : Nat))

/-- The pattern of `significand * 2 ^ exponent` without a sign, to nearest and with ties to even.
Values beyond the largest finite number become infinity. -/
def round (format : BinaryFormat) (significand : Nat) (exponent : Int) : Nat :=
  if significand = 0 then 0
  else
    let unit := max (exponent + significand.log2 - format.fractionBits) format.minExponent
    let rounded :=
      if unit ≤ exponent then significand <<< (exponent - unit).toNat
      else roundShift significand (unit - exponent).toNat
    min ((unit - format.minExponent).toNat <<< format.fractionBits + rounded) format.infinity

/-- A pattern with its sign set or left out. -/
def withSign (format : BinaryFormat) (negative : Bool) (magnitude : Nat) : Nat :=
  if negative then format.signBit + magnitude else magnitude

/-- The quiet NaN that keeps the sign and the high fraction bits of a NaN of another format. -/
def convertNan (source target : BinaryFormat) (pattern : Nat) : Nat :=
  let payload := source.fraction pattern <<< target.fractionBits >>> source.fractionBits
  target.withSign (source.negative pattern)
    (target.infinity + (payload ||| 1 <<< (target.fractionBits - 1)))

/-- The number of another format that is nearest to a pattern. -/
def convert (source target : BinaryFormat) (pattern : Nat) : Nat :=
  match source.read pattern with
  | .nan => source.convertNan target pattern
  | .infinite => target.withSign (source.negative pattern) target.infinity
  | .finite significand exponent =>
      target.withSign (source.negative pattern) (target.round significand exponent)

end BinaryFormat

/-- A 32-bit floating point number, as its bit pattern. -/
structure Single where
  bits : UInt32
deriving DecidableEq, Inhabited

/-- A 64-bit floating point number, as its bit pattern. -/
structure Double where
  bits : UInt64
deriving DecidableEq, Inhabited

namespace Single

def reading (x : Single) : Reading := BinaryFormat.single.read x.bits.toNat

def negative (x : Single) : Bool := BinaryFormat.single.negative x.bits.toNat

/-- The same number in double precision. -/
def toDouble (x : Single) : Double :=
  ⟨UInt64.ofNat (BinaryFormat.single.convert .double x.bits.toNat)⟩

/-- Numerical equality: zeros are equal whatever their sign, and a NaN equals nothing. -/
def equal (x y : Single) : Bool :=
  match x.reading, y.reading with
  | .nan, _ | _, .nan => false
  | .finite 0 _, .finite 0 _ => true
  | _, _ => x.bits == y.bits

end Single

namespace Double

def infinity : Double := ⟨0x7FF0000000000000⟩

def nan : Double := ⟨0x7FF8000000000000⟩

def reading (x : Double) : Reading := BinaryFormat.double.read x.bits.toNat

def negative (x : Double) : Bool := BinaryFormat.double.negative x.bits.toNat

def neg (x : Double) : Double := ⟨x.bits ^^^ 0x8000000000000000⟩

/-- The double nearest to `significand * 2 ^ exponent`, with the given sign. -/
def ofScaled (negative : Bool) (significand : Nat) (exponent : Int) : Double :=
  ⟨UInt64.ofNat (BinaryFormat.double.withSign negative
    (BinaryFormat.double.round significand exponent))⟩

/-- The double nearest to a power of two: infinity above the range and zero below it. -/
def pow2 (exponent : Int) : Double := ofScaled false 1 exponent

/-- The double nearest to an integer. -/
def ofInt64 (value : Int64) : Double := ofScaled (value < 0) value.toInt.natAbs 0

/-- The integer part, kept within the signed 64-bit range; a NaN gives zero. -/
def toInt64 (x : Double) : Int64 :=
  match x.reading with
  | .nan => 0
  | .infinite => if x.negative then Int64.minValue else Int64.maxValue
  | .finite significand exponent =>
      let magnitude : Int :=
        if exponent < 0 then ((significand >>> (-exponent).toNat : Nat) : Int)
        else ((significand <<< exponent.toNat : Nat) : Int)
      let value := if x.negative then -magnitude else magnitude
      Int64.ofInt (max Int64.minValue.toInt (min Int64.maxValue.toInt value))

def toSingle (x : Double) : Single :=
  ⟨UInt32.ofNat (BinaryFormat.double.convert .single x.bits.toNat)⟩

/-- Numerical equality: zeros are equal whatever their sign, and a NaN equals nothing. -/
def equal (x y : Double) : Bool :=
  match x.reading, y.reading with
  | .nan, _ | _, .nan => false
  | .finite 0 _, .finite 0 _ => true
  | _, _ => x.bits == y.bits

/-- A NaN with its quiet bit set. -/
def quieted (x : Double) : Double := ⟨x.bits ||| 0x0008000000000000⟩

/-- The rounded product. A NaN factor is handed on quieted, the left one first; zero times infinity
is the NaN with its sign set and no payload. -/
def mul (x y : Double) : Double :=
  let negative := x.negative != y.negative
  match x.reading, y.reading with
  | .nan, _ => x.quieted
  | _, .nan => y.quieted
  | .infinite, .finite 0 _ | .finite 0 _, .infinite => nan.neg
  | .infinite, _ | _, .infinite => if negative then infinity.neg else infinity
  | .finite a i, .finite b j => ofScaled negative (a * b) (i + j)

end Double

end IrMachine
