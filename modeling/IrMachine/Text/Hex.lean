import IrMachine.Bytes

/-!
# Hexadecimal text

Lower-case hexadecimal, as faults and address texts write it: numbers without leading zeros, and
bytes with exactly two digits. Reading takes upper-case digits too.
-/

namespace IrMachine.Hex

/-- The lower-case hexadecimal digits of a number, without leading zeros. -/
def ofNat (value : Nat) : String := String.ofList (Nat.toDigits 16 value)

/-- A number with the mark `0x` in front. -/
def marked (value : Nat) : String := "0x" ++ ofNat value

def ofByte (byte : UInt8) : String :=
  if byte < 16 then "0" ++ ofNat byte.toNat else ofNat byte.toNat

def ofBytes (bytes : Bytes) : String := String.join (bytes.map ofByte)

def digit? (c : Char) : Option Nat :=
  if '0' ≤ c ∧ c ≤ '9' then some (c.toNat - '0'.toNat)
  else if 'a' ≤ c ∧ c ≤ 'f' then some (c.toNat - 'a'.toNat + 10)
  else if 'A' ≤ c ∧ c ≤ 'F' then some (c.toNat - 'A'.toNat + 10)
  else none

/-- The number that hexadecimal digits denote, most significant first. -/
def toNat? (digits : List Char) : Option Nat :=
  (digits.mapM digit?).map fun values => values.foldl (· * 16 + ·) 0

/-- The byte string that pairs of hexadecimal digits denote. -/
def toBytes? (digits : List Char) : Option Bytes :=
  (digits.mapM digit?).map pairs
where
  /-- The bytes that the values of digits make up, two by two. -/
  pairs : List Nat → Bytes
    | high :: low :: rest => UInt8.ofNat (high * 16 + low) :: pairs rest
    | _ => []

end IrMachine.Hex
