import IrMachine.Fault
import IrMachine.Memory.Image

/-!
# Managed buffers

Blocks of bytes that the interpreter manages itself and that have no native address. Offsets are
signed, since pointer arithmetic may move them anywhere; an access is legal exactly when it starts
at or after the first byte and ends at or before the last. Whether it does is decided in words: an
access whose end is not a word ends outside every buffer.
-/

namespace IrMachine

/-- A managed block of bytes, whose size is a word. -/
structure Buffer where
  image : ByteArray
  size_lt : image.size < UInt64.size

namespace Buffer

def new (size : UInt64) : Buffer where
  image := Image.zeros size.toNat
  size_lt := by simpa using size.toNat_lt

instance : Inhabited Buffer := ⟨new 0⟩

/-- A buffer that holds the given bytes, if their number is a word. -/
def ofBytes? (bytes : Bytes) : Option Buffer :=
  if fits : bytes.length < UInt64.size then some ⟨Image.ofBytes bytes, fits⟩ else none

def size (buffer : Buffer) : Nat := buffer.image.size

/-- Where the `length` bytes from `offset` on end. A negative offset is no place in a buffer, and an
end that is not a word is none either. -/
def stop? (offset : Int64) (length : Nat) : Option UInt64 :=
  if offset < 0 then none
  else if offset.toUInt64.toNat + length < UInt64.size then
    some (offset.toUInt64 + UInt64.ofNat length)
  else none

/-- Whether the `length` bytes from `offset` on lie inside the buffer. -/
def contains (buffer : Buffer) (offset : Int64) (length : Nat) : Bool :=
  (stop? offset length).any (·.toNat ≤ buffer.size)

def outside (buffer : Buffer) (offset : Int64) (length : Nat) : Fault :=
  .operand "virtual allocation access" (.outsideBuffer length offset buffer.size)

def read (buffer : Buffer) (offset : Int64) (length : Nat) : Except Fault Bytes :=
  if buffer.contains offset length then
    .ok (Image.slice buffer.image offset.toInt.toNat length)
  else
    .error (buffer.outside offset length)

/-- The buffer after bytes were stored; callers have checked the bounds. -/
def stored (buffer : Buffer) (offset : Int64) (bytes : Bytes) : Buffer where
  image := Image.overwrite buffer.image offset.toInt.toNat bytes
  size_lt := by rw [Image.size_overwrite]; exact buffer.size_lt

def write (buffer : Buffer) (offset : Int64) (bytes : Bytes) : Except Fault Buffer :=
  if buffer.contains offset bytes.length then
    .ok (buffer.stored offset bytes)
  else
    .error (buffer.outside offset bytes.length)

def readInt64 (buffer : Buffer) (offset : Int64) : Except Fault Int64 :=
  (buffer.read offset 8).map fun bytes => (UInt64.ofNat (LittleEndian.decode bytes)).toInt64

def writeInt64 (buffer : Buffer) (offset value : Int64) : Except Fault Buffer :=
  buffer.write offset (LittleEndian.encode 8 value.toUInt64.toNat)

def describe (buffer : Buffer) : String :=
  "AllocationHandle(" ++ toString buffer.size ++ " bytes)"

end Buffer

end IrMachine
