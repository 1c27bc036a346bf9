import IrMachine.Ty.Basic

/-!
# Storage layout

Sizes and alignments of types. Sizes are addresses' distances, so a type whose size does not fit
64 bits has no layout: `Ty.size?` answers `none` for it, also when only a field or an element is too
large. `Ty.byteSize` is for reads that never allocate, and saturates instead.

A struct that is not packed places each field at the next multiple of the field's alignment and
rounds its end up to the largest of them.
-/

namespace IrMachine

namespace Ty

def addressBytes : Nat := 8

def float80Bytes : Nat := 10

def bytesForBits (bits : Nat) : Nat := bits / 8 + if bits % 8 = 0 then 0 else 1

/-- One more than the largest size that a 64-bit machine can express. -/
def sizeLimit : Nat := UInt64.size

def checked (size : Nat) : Option Nat := if size < sizeLimit then some size else none

/-- The least multiple of `align` that is not below `value`. -/
def roundUp (value align : Nat) : Nat := (value + (align - 1)) / align * align

/-- `roundUp`, unless adding the padding already leaves the 64-bit range. -/
def roundUp? (value align : Nat) : Option Nat :=
  (checked (value + (align - 1))).map fun padded => padded / align * align

/-- The least power of two that holds an integer's bytes, but at most eight. -/
def intAlignment (bits : Nat) : Nat :=
  let size := bytesForBits bits
  if size ≤ 1 then 1 else if size ≤ 2 then 2 else if size ≤ 4 then 4 else 8

mutual

def alignment : Ty → Nat
  | void => 1
  | int bits => intAlignment bits
  | float => 4
  | double => 8
  | float80 => 16
  | pointer | function .. => addressBytes
  | struct fields packed => if packed then 1 else fieldsAlignment fields
  | array element _ => alignment element

/-- The largest alignment among the fields, and one for no fields. -/
def fieldsAlignment : List Ty → Nat
  | [] => 1
  | ty :: rest => max (alignment ty) (fieldsAlignment rest)

end

/-- The alignment that a struct gives to one of its fields. -/
def fieldAlignment (packed : Bool) (ty : Ty) : Nat := if packed then 1 else ty.alignment

mutual

/-- The size of a type in bytes, if it and every part of it fit the address space. -/
def size? : Ty → Option Nat
  | void => some 0
  | int bits => checked (bytesForBits bits)
  | float => some 4
  | double => some 8
  | float80 => some float80Bytes
  | pointer | function .. => some addressBytes
  | struct fields packed => do
      let stop ← fieldsEnd? packed fields 0
      if packed then some stop else roundUp? stop (fieldsAlignment fields)
  | array element length => do checked ((← size? element) * length)

/-- Where the last of the fields ends, if the first is placed at or after `offset`. -/
def fieldsEnd? (packed : Bool) : List Ty → Nat → Option Nat
  | [], offset => some offset
  | ty :: rest, offset => do
      let start ← roundUp? offset (fieldAlignment packed ty)
      let stop ← checked (start + (← size? ty))
      fieldsEnd? packed rest stop

end

/-- The size of a type, or the largest size there is for a type without one. -/
def byteSize (ty : Ty) : Nat := ty.size?.getD (sizeLimit - 1)

end Ty

end IrMachine
