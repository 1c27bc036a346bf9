import IrMachine.Proofs.Number.TwosComplement

/-!
# Integers as patterns of bits

An integer scalar is a width and a pattern of that many bits, whether a register holds it directly
or its width is carried along: `Scalar.Holds`. The bytes that store an integer depend on these two
alone (`Scalar.Holds.encode_eq`), and so does its signed reading, except that an `i1` is read as
zero or one (`Scalar.Holds.toInt64?_eq`).
-/

namespace IrMachine

namespace VarInt

open LittleEndian

/-- A pattern and the number it stands for agree modulo the range of the width. -/
theorem signed_emod (width pattern : Nat) :
    signed width pattern % 2 ^ width = ((pattern % 2 ^ width : Nat) : Int) := by
  rw [signed]
  split
  · push_cast
    rfl
  · rw [Int.sub_emod_right]
    push_cast
    rfl

/-- What a pattern of a width stands for lies in the range of the width. -/
theorem signed_range {width pattern : Nat} (positive : 0 < width) (fits : pattern < 2 ^ width) :
    -2 ^ (width - 1) ≤ signed width pattern ∧ signed width pattern < 2 ^ (width - 1) := by
  apply (signed_emod_eq_iff positive _).mp
  rw [signed_emod, Nat.mod_eq_of_lt fits, Int.toNat_natCast]

/-- An integer is known by its width and the number that it keeps. -/
theorem Keeps.unique {value other : VarInt} {width number : Nat} (keeps : value.Keeps width number)
    (keeps' : other.Keeps width number) : value = other := by
  have bytes : value.bytes = other.bytes :=
    eq_of_decode_eq (keeps.size.trans keeps'.size.symm) (keeps.number.trans keeps'.number.symm)
  have width := keeps.width_eq.trans keeps'.width_eq.symm
  obtain ⟨_, _⟩ := value
  obtain ⟨_, _⟩ := other
  exact (VarInt.mk.injEq ..).mpr ⟨width, bytes⟩

end VarInt

namespace Scalar

open LittleEndian

/-- An integer scalar has a width, and its bits are those of a pattern. -/
inductive Holds : Scalar → Nat → Nat → Prop where
  | i1 (value : Bool) : Holds (.i1 value) 1 value.toNat
  | i8 (value : Int8) : Holds (.i8 value) 8 value.toUInt8.toNat
  | i16 (value : Int16) : Holds (.i16 value) 16 value.toUInt16.toNat
  | i32 (value : Int32) : Holds (.i32 value) 32 value.toUInt32.toNat
  | i64 (value : Int64) : Holds (.i64 value) 64 value.toUInt64.toNat
  | varInt {value : VarInt} (canonical : value.Canonical) :
      Holds (.varInt value) value.width (decode value.bytes)

namespace Holds

variable {value : Scalar} {width pattern : Nat}

theorem pattern_lt (holds : value.Holds width pattern) : pattern < 2 ^ width := by
  cases holds with
  | i1 value => cases value <;> decide
  | i8 value => exact value.toUInt8.toNat_lt
  | i16 value => exact value.toUInt16.toNat_lt
  | i32 value => exact value.toUInt32.toNat_lt
  | i64 value => exact value.toUInt64.toNat_lt
  | varInt canonical => exact canonical.cleared

/-- Memory holds the pattern of an integer, in as many bytes as the width needs. -/
theorem encode_eq (holds : value.Holds width pattern) :
    value.encode = LittleEndian.encode (Ty.bytesForBits width) pattern := by
  cases holds with
  | i1 value => cases value <;> rfl
  | varInt canonical => exact encode_of_decode_eq canonical.full rfl
  | _ => rfl

/-- Up to 64 bits, an integer is read as what its pattern stands for, unless it is an `i1`. -/
theorem toInt64?_eq (holds : value.Holds width pattern) (positive : 0 < width)
    (narrow : width ≤ 64) (counted : ∀ flag, value ≠ .i1 flag) :
    ∃ reading, value.toInt64? = some reading ∧ reading.toInt = VarInt.signed width pattern := by
  cases holds with
  | i1 value => exact absurd rfl (counted value)
  | i8 value =>
      refine ⟨value.toInt64, rfl, ?_⟩
      rw [Int8.toInt_toInt64]
      exact BitVec.toInt_eq_toNat_cond _
  | i16 value =>
      refine ⟨value.toInt64, rfl, ?_⟩
      rw [Int16.toInt_toInt64]
      exact BitVec.toInt_eq_toNat_cond _
  | i32 value =>
      refine ⟨value.toInt64, rfl, ?_⟩
      rw [Int32.toInt_toInt64]
      exact BitVec.toInt_eq_toNat_cond _
  | i64 value => exact ⟨value, rfl, BitVec.toInt_eq_toNat_cond _⟩
  | @varInt value canonical =>
      refine ⟨value.toInt64, rfl, ?_⟩
      by_cases word : value.width = 64
      · have cleared := canonical.cleared
        rw [word] at cleared ⊢
        rw [VarInt.toInt_toInt64_of_wide (by omega), Nat.mod_eq_of_lt cleared]
      · exact canonical.toInt_toInt64 positive (by omega)

end Holds

/-- An integer that is read from bytes and carries its width has the low bits of their number. -/
theorem holds_ofBytes (width : Nat) (bytes : Bytes) :
    (varInt (.ofBytes width bytes)).Holds width (decode bytes % 2 ^ width) := by
  rw [← (VarInt.ofBytes_keeps width bytes).number]
  exact .varInt (VarInt.canonical_store width 0 bytes)

end Scalar

/-- Bytes that are read at a standard width give a scalar with the low bits of their number. -/
theorem ScalarKind.holds_decode (width : IntWidth) (bytes : Bytes) :
    ((ScalarKind.int width).decode bytes).Holds width.bits
      (LittleEndian.decode bytes % 2 ^ width.bits) := by
  cases width with
  | w1 =>
      have bit : (LittleEndian.decode bytes % 2 == 1).toNat = LittleEndian.decode bytes % 2 := by
        obtain even | odd := Nat.mod_two_eq_zero_or_one (LittleEndian.decode bytes)
        · rw [even]
          rfl
        · rw [odd]
          rfl
      have holds := Scalar.Holds.i1 (LittleEndian.decode bytes % 2 == 1)
      rw [bit] at holds
      exact holds
  | w8 =>
      have holds := Scalar.Holds.i8 (UInt8.ofNat (LittleEndian.decode bytes)).toInt8
      rw [UInt8.toUInt8_toInt8, UInt8.toNat_ofNat'] at holds
      exact holds
  | w16 =>
      have holds := Scalar.Holds.i16 (UInt16.ofNat (LittleEndian.decode bytes)).toInt16
      rw [UInt16.toUInt16_toInt16, UInt16.toNat_ofNat'] at holds
      exact holds
  | w32 =>
      have holds := Scalar.Holds.i32 (UInt32.ofNat (LittleEndian.decode bytes)).toInt32
      rw [UInt32.toUInt32_toInt32, UInt32.toNat_ofNat'] at holds
      exact holds
  | w64 =>
      have holds := Scalar.Holds.i64 (UInt64.ofNat (LittleEndian.decode bytes)).toInt64
      rw [UInt64.toUInt64_toInt64, UInt64.toNat_ofNat'] at holds
      exact holds

namespace IntWidth

theorem bits_pos (width : IntWidth) : 0 < width.bits := by
  cases width <;> decide

theorem bits_le (width : IntWidth) : width.bits ≤ 64 := by
  cases width <;> decide

end IntWidth

/-- Bytes that are read at a standard width other than `i1` are read as two's complement. -/
theorem ScalarKind.toInt64?_decode {width : IntWidth} (several : width ≠ .w1) (bytes : Bytes) :
    ∃ reading, ((ScalarKind.int width).decode bytes).toInt64? = some reading ∧
      reading.toInt =
        VarInt.signed width.bits (LittleEndian.decode bytes % 2 ^ width.bits) := by
  apply (holds_decode width bytes).toInt64?_eq width.bits_pos width.bits_le
  intro flag
  cases width with
  | w1 => exact absurd rfl several
  | _ => nofun

end IrMachine
