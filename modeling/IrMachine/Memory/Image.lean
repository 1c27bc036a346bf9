import IrMachine.Bytes

/-!
# Byte images

A block of bytes that is read and overwritten in place. Both functions are total: callers check
their bounds first, as the memory image and the managed buffers do, and `size_overwrite` says that
the block never grows.
-/

namespace IrMachine.Image

def zeros (size : Nat) : ByteArray := ⟨Array.replicate size 0⟩

def ofBytes (bytes : Bytes) : ByteArray := ⟨bytes.toArray⟩

/-- The `length` bytes from `offset` on. -/
def slice (image : ByteArray) (offset length : Nat) : Bytes :=
  (List.range length).map fun i => image.get! (offset + i)

/-- The block with the bytes from `offset` on replaced. -/
def overwrite (image : ByteArray) (offset : Nat) : Bytes → ByteArray
  | [] => image
  | byte :: rest => overwrite (image.set! offset byte) (offset + 1) rest

@[simp] theorem size_zeros (size : Nat) : (zeros size).size = size := by
  simp [zeros, ByteArray.size]

@[simp] theorem length_slice (image : ByteArray) (offset length : Nat) :
    (slice image offset length).length = length := by simp [slice]

@[simp] theorem size_overwrite (image : ByteArray) (offset : Nat) (bytes : Bytes) :
    (overwrite image offset bytes).size = image.size := by
  induction bytes generalizing image offset with
  | nil => rfl
  | cons byte rest ih =>
    rw [overwrite, ih]
    exact Array.size_setIfInBounds

end IrMachine.Image
