import IrMachine.Fault
import IrMachine.Memory.Image
import IrMachine.Scalar

/-!
# Native memory

A flat image of bytes that starts at a base address. An access is legal exactly when its bytes lie
inside the image, which is decided in unbounded arithmetic, and an illegal access changes nothing.

Storage is handed out in order: `allocate` takes the least address that is aligned and not below the
end of what was handed out before. Nothing is ever given back. Its sums have to be words: a request
with a sum that is none is abandoned, with nothing handed out.
-/

namespace IrMachine

/-- The sum of two addresses or lengths, which has to be a word as they are. -/
def Word.sum (first second : Nat) : Except Fault Nat :=
  if first + second < UInt64.size then .ok (first + second) else .error .overflow

/-- The image of native memory and the end of what has been handed out of it. -/
structure NativeMemory where
  base : UInt64
  image : ByteArray
  /-- The lowest address that has not been handed out. -/
  next : Nat
deriving Inhabited

namespace NativeMemory

/-- An image of zero bytes of which nothing has been handed out. -/
def new (base : UInt64) (size : Nat) : NativeMemory :=
  { base, image := Image.zeros size, next := base.toNat }

def size (memory : NativeMemory) : Nat := memory.image.size

/-- Whether the `length` bytes from `address` on lie inside the image. -/
def contains (memory : NativeMemory) (address length : Nat) : Bool :=
  memory.base.toNat ≤ address && address + length ≤ memory.base.toNat + memory.size

/-- Hands out `size` bytes at a multiple of `align`. The whole alignment is added before one is
taken off again, so it is that sum which has to be a word. -/
def allocate (memory : NativeMemory) (size align : Nat) :
    Except Fault (UInt64 × NativeMemory) := do
  let align := max align 1
  let sum ← Word.sum memory.next align
  let start := (sum - 1) / align * align
  if memory.contains start size then
    let stop ← Word.sum start size
    return (UInt64.ofNat start, { memory with next := stop })
  else
    throw (.memory (UInt64.ofNat start) size)

def read (memory : NativeMemory) (address : UInt64) (length : Nat) : Except Fault Bytes :=
  if memory.contains address.toNat length then
    .ok (Image.slice memory.image (address.toNat - memory.base.toNat) length)
  else
    .error (.memory address length)

def write (memory : NativeMemory) (address : UInt64) (bytes : Bytes) : Except Fault NativeMemory :=
  if memory.contains address.toNat bytes.length then
    .ok { memory with
      image := Image.overwrite memory.image (address.toNat - memory.base.toNat) bytes }
  else
    .error (.memory address bytes.length)

def getScalar (memory : NativeMemory) (kind : ScalarKind) (address : UInt64) :
    Except Fault Scalar :=
  (memory.read address kind.width).map kind.decode

def getPointer (memory : NativeMemory) (address : UInt64) : Except Fault UInt64 :=
  (memory.read address Ty.addressBytes).map fun bytes => UInt64.ofNat (LittleEndian.decode bytes)

def putScalar (memory : NativeMemory) (address : UInt64) (value : Scalar) :
    Except Fault NativeMemory :=
  memory.write address value.encode

def putPointer (memory : NativeMemory) (address : UInt64) (value : UInt64) :
    Except Fault NativeMemory :=
  memory.write address (LittleEndian.encode Ty.addressBytes value.toNat)

end NativeMemory

end IrMachine
