import IrMachine.Number.Extended
import IrMachine.Number.VarInt

/-!
# Scalars and their storage

The values that fit a register: integers of the standard widths, integers of any other width,
floating point numbers and function handles. `Scalar.encode` gives the bytes that memory holds for a
scalar and `ScalarKind.decode` reads them back; a kind knows how many bytes that takes.

An `i1` takes a whole byte, of which only the lowest bit is read.
-/

namespace IrMachine

inductive IntWidth where
  | w1 | w8 | w16 | w32 | w64
deriving DecidableEq, Inhabited

namespace IntWidth

def bits : IntWidth → Nat
  | w1 => 1
  | w8 => 8
  | w16 => 16
  | w32 => 32
  | w64 => 64

/-- The standard width of a number of bits, if there is one. -/
def ofBits? : Nat → Option IntWidth
  | 1 => some w1
  | 8 => some w8
  | 16 => some w16
  | 32 => some w32
  | 64 => some w64
  | _ => none

end IntWidth

inductive ScalarKind where
  | int (width : IntWidth)
  /-- An integer with its width carried along, which may also be a standard one. -/
  | varInt (bits : Nat)
  | float
  | double
  | float80
  | function
deriving DecidableEq, Inhabited

/-- A value that fits a register. -/
inductive Scalar where
  | i1 (value : Bool)
  | i8 (value : Int8)
  | i16 (value : Int16)
  | i32 (value : Int32)
  | i64 (value : Int64)
  | varInt (value : VarInt)
  | float (value : Single)
  | double (value : Double)
  | float80 (value : Float80)
  /-- A handle on native code, given by its address. -/
  | function (pointer : UInt64)
deriving DecidableEq, Inhabited

namespace ScalarKind

def ty : ScalarKind → Ty
  | int width => .int width.bits
  | varInt bits => .int bits
  | float => .float
  | double => .double
  | float80 => .float80
  | function => .function .void [] false

def width (kind : ScalarKind) : Nat := kind.ty.byteSize

def decode (kind : ScalarKind) (bytes : Bytes) : Scalar :=
  let word := LittleEndian.decode bytes
  match kind with
  | int .w1 => .i1 (word % 2 == 1)
  | int .w8 => .i8 (UInt8.ofNat word).toInt8
  | int .w16 => .i16 (UInt16.ofNat word).toInt16
  | int .w32 => .i32 (UInt32.ofNat word).toInt32
  | int .w64 => .i64 (UInt64.ofNat word).toInt64
  | varInt bits => .varInt (.ofBytes bits bytes)
  | float => .float ⟨UInt32.ofNat word⟩
  | double => .double ⟨UInt64.ofNat word⟩
  | float80 => .float80 (.ofBytes bytes)
  | function => .function (UInt64.ofNat word)

end ScalarKind

namespace Scalar

def kind : Scalar → ScalarKind
  | i1 _ => .int .w1
  | i8 _ => .int .w8
  | i16 _ => .int .w16
  | i32 _ => .int .w32
  | i64 _ => .int .w64
  | varInt value => .varInt value.width
  | float _ => .float
  | double _ => .double
  | float80 _ => .float80
  | function _ => .function

def encode : Scalar → Bytes
  | i1 value => [if value then 1 else 0]
  | i8 value => LittleEndian.encode 1 value.toUInt8.toNat
  | i16 value => LittleEndian.encode 2 value.toUInt16.toNat
  | i32 value => LittleEndian.encode 4 value.toUInt32.toNat
  | i64 value => LittleEndian.encode 8 value.toUInt64.toNat
  | varInt value => value.bytes
  | float value => LittleEndian.encode 4 value.bits.toNat
  | double value => LittleEndian.encode 8 value.bits.toNat
  | float80 value => value.toBytes
  | function pointer => LittleEndian.encode 8 pointer.toNat

/-- The name of a scalar's type in faults. -/
def typeName : Scalar → String
  | varInt value => (Ty.int value.width).text
  | function _ => "function"
  | scalar => scalar.kind.ty.text

/-- The number that an integer scalar denotes: an `i1` is zero or one, and other widths are read as
two's complement. -/
def toInt64? : Scalar → Option Int64
  | i1 value => some (if value then 1 else 0)
  | i8 value => some value.toInt64
  | i16 value => some value.toInt64
  | i32 value => some value.toInt64
  | i64 value => some value
  | varInt value => some value.toInt64
  | _ => none

/-- An integer scalar at another width. An integer that has the width already is kept as it is. -/
def toVarInt? (bits : Nat) : Scalar → Option VarInt
  | varInt value =>
      if value.width = bits then some value else some (.ofInt64 bits value.toInt64)
  | scalar => scalar.toInt64?.map (.ofInt64 bits)

/-- The written form of a scalar: its type and its value. -/
def text : Scalar → String
  | i1 value => "i1 " ++ toString value
  | i8 value => "i8 " ++ toString value.toInt
  | i16 value => "i16 " ++ toString value.toInt
  | i32 value => "i32 " ++ toString value.toInt
  | i64 value => "i64 " ++ toString value.toInt
  | varInt value => value.text
  | float value => "float " ++ value.text
  | double value => "double " ++ value.text
  | float80 value => "x86_fp80 " ++ value.text
  | function pointer => "fn " ++ Hex.marked pointer.toNat

/-- Equality as a program sees it: floats and doubles compare numerically, everything else by its
bits. -/
def equal : Scalar → Scalar → Bool
  | float x, float y => x.equal y
  | double x, double y => x.equal y
  | x, y => x == y

end Scalar

end IrMachine
