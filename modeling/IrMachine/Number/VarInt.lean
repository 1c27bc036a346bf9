import IrMachine.Bytes
import IrMachine.Text.Hex
import IrMachine.Ty.Layout

/-!
# Integers that carry their width

An integer whose width is not one of the machine's own is kept as the bytes that memory would hold:
as many as its width needs, least significant first, with the bits above the width cleared. Every
constructor clears them, so two integers of one width are equal exactly when they denote the same
number.

Signed readings are two's complement at the integer's own width, and only 64 bits of a wider integer
are ever read.
-/

namespace IrMachine

/-- An integer of `width` bits, as the little-endian bytes that store it. -/
structure VarInt where
  width : Nat
  bytes : Bytes
deriving DecidableEq, Inhabited

namespace VarInt

/-- Clears the `excess` high bits of the last byte. -/
def clearHigh (excess : Nat) : Bytes → Bytes
  | [] => []
  | [byte] => [byte &&& (0xFF >>> UInt8.ofNat excess)]
  | byte :: rest => byte :: clearHigh excess rest

/-- How many bits of the last byte a width leaves over, as a difference of 32-bit words. -/
def excess (width : Nat) : UInt32 :=
  UInt32.ofNat (8 * Ty.bytesForBits width) - UInt32.ofNat width

/-- The integer of `width` bits whose storage starts with the given bytes; missing bytes are taken
from `fill`, and bytes that the width has no room for are dropped. -/
def store (width : Nat) (fill : UInt8) (bytes : Bytes) : VarInt :=
  let size := Ty.bytesForBits width
  let bytes := (bytes ++ List.replicate (size - bytes.length) fill).take size
  { width, bytes := clearHigh (excess width).toNat bytes }

/-- The integer with the given storage, extended by zeros or cut to the width. -/
def ofBytes (width : Nat) (bytes : Bytes) : VarInt := store width 0 bytes

/-- A signed number, sign-extended or cut to the width. -/
def ofInt64 (width : Nat) (value : Int64) : VarInt :=
  store width (if value < 0 then 0xFF else 0) (LittleEndian.encode 8 value.toUInt64.toNat)

/-- An unsigned number, zero-extended or cut to the width. -/
def ofUInt64 (width : Nat) (value : UInt64) : VarInt :=
  ofBytes width (LittleEndian.encode 8 value.toNat)

def byteSize (value : VarInt) : Nat := value.bytes.length

def toUInt64 (value : VarInt) : UInt64 :=
  UInt64.ofNat (LittleEndian.decode (value.bytes.take 8))

/-- The two's-complement reading at the integer's own width, or of its low 64 bits if it is wider
than that. -/
def toInt64 (value : VarInt) : Int64 :=
  let raw := value.toUInt64
  if value.width = 0 ∨ 64 ≤ value.width then
    raw.toInt64
  else if (raw >>> UInt64.ofNat (value.width - 1)) &&& 1 = 1 then
    (raw ||| ((-1) <<< UInt64.ofNat value.width)).toInt64
  else
    raw.toInt64

/-- Width and unsigned value; integers beyond 64 bits are written in hexadecimal, with every stored
byte. -/
def text (value : VarInt) : String :=
  let mark := "i" ++ toString value.width ++ " "
  if value.width ≤ 64 then
    mark ++ toString value.toUInt64.toNat
  else
    mark ++ "0x" ++ Hex.ofBytes value.bytes.reverse

end VarInt

end IrMachine
