/-!
# Little-endian byte strings

Everything the machine stores is a byte string, lowest address first. `LittleEndian.encode` writes
a natural number into a fixed number of bytes and `LittleEndian.decode` reads it back.

The two laws that every storage format rests on are `decode_encode`, which says that exactly the
bits above the width are lost, and `encode_decode`, which says that nothing else is.
-/

namespace IrMachine

/-- A byte string, lowest address first. -/
abbrev Bytes := List UInt8

namespace LittleEndian

/-- The `width` low bytes of `value`, least significant first. -/
def encode : Nat → Nat → Bytes
  | 0, _ => []
  | width + 1, value => UInt8.ofNat value :: encode width (value / 256)

/-- The number whose little-endian bytes are given. -/
def decode : Bytes → Nat
  | [] => 0
  | byte :: rest => byte.toNat + 256 * decode rest

@[simp] theorem encode_zero (value : Nat) : encode 0 value = [] := rfl

@[simp] theorem encode_succ (width value : Nat) :
    encode (width + 1) value = UInt8.ofNat value :: encode width (value / 256) := rfl

@[simp] theorem decode_nil : decode [] = 0 := rfl

@[simp] theorem decode_cons (byte : UInt8) (rest : Bytes) :
    decode (byte :: rest) = byte.toNat + 256 * decode rest := rfl

@[simp] theorem length_encode (width value : Nat) : (encode width value).length = width := by
  induction width generalizing value with
  | zero => rfl
  | succ width ih => simp [ih]

/-- A byte string is the encoding of the number it denotes. -/
theorem encode_decode (bytes : Bytes) : encode bytes.length (decode bytes) = bytes := by
  induction bytes with
  | nil => rfl
  | cons byte rest ih =>
    have bound : byte.toNat < 256 := byte.toNat_lt
    have quotient : (byte.toNat + 256 * decode rest) / 256 = decode rest := by omega
    rw [List.length_cons, decode_cons, encode_succ, quotient, ih]
    congr 1
    apply UInt8.toNat_inj.mp
    simp

end LittleEndian

end IrMachine
