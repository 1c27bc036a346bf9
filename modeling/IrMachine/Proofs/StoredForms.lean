import IrMachine.Scalar
import Mathlib.Tactic.IntervalCases
import Mathlib.Tactic.Ring

/-!
# Stored forms of numbers

What the bytes of a stored number denote, and that reading them back gives the number again. An
integer of `bits` bits is stored as its remainder modulo `2 ^ bits` (`VarInt.decode_ofInt64`), which
is all that a reader of any width of the machine needs (`ScalarKind.decode_ofInt64`).
-/

namespace IrMachine

namespace LittleEndian

/-- Encoding keeps the number modulo the range of its width. -/
theorem decode_encode (width value : Nat) :
    decode (encode width value) = value % 256 ^ width := by
  induction width generalizing value with
  | zero => simp [Nat.mod_one]
  | succ width ih =>
    rw [encode_succ, decode_cons, ih, Nat.pow_succ, Nat.mul_comm (256 ^ width) 256, Nat.mod_mul]
    simp

theorem decode_lt (bytes : Bytes) : decode bytes < 256 ^ bytes.length := by
  induction bytes with
  | nil => simp
  | cons byte rest ih =>
    have bound : byte.toNat < 256 := byte.toNat_lt
    rw [decode_cons, List.length_cons, Nat.pow_succ]
    omega

theorem decode_append (first second : Bytes) :
    decode (first ++ second) = decode first + 256 ^ first.length * decode second := by
  induction first with
  | nil => simp
  | cons byte rest ih =>
      rw [List.cons_append, decode_cons, decode_cons, ih, List.length_cons]
      ring

theorem decode_take (bytes : Bytes) (count : Nat) :
    decode (bytes.take count) = decode bytes % 256 ^ count := by
  induction bytes generalizing count with
  | nil => simp
  | cons byte rest ih =>
      cases count with
      | zero => simp [Nat.mod_one]
      | succ count =>
          have low : byte.toNat < 256 := byte.toNat_lt
          have quotient : (byte.toNat + 256 * decode rest) / 256 = decode rest := by omega
          have remainder : (byte.toNat + 256 * decode rest) % 256 = byte.toNat := by omega
          rw [List.take_succ_cons, decode_cons, decode_cons, ih, Nat.pow_succ,
            Nat.mul_comm (256 ^ count), Nat.mod_mul, quotient, remainder]

theorem decode_replicate_zero (count : Nat) : decode (List.replicate count 0) = 0 := by
  induction count with
  | zero => rfl
  | succ count ih => simp [List.replicate_succ, ih]

theorem decode_replicate_ones (count : Nat) :
    decode (List.replicate count 0xFF) + 1 = 256 ^ count := by
  induction count with
  | zero => rfl
  | succ count ih =>
      have high : (0xFF : UInt8).toNat = 255 := rfl
      rw [List.replicate_succ, decode_cons, high, Nat.pow_succ]
      omega

/-- A byte string is determined by its length and the number it denotes. -/
theorem eq_of_decode_eq {first second : Bytes} (length : first.length = second.length)
    (number : decode first = decode second) : first = second := by
  rw [← encode_decode first, ← encode_decode second, length, number]

theorem encode_of_decode_eq {bytes : Bytes} {width value : Nat} (length : bytes.length = width)
    (number : decode bytes = value) : bytes = encode width value := by
  rw [← encode_decode bytes, length, number]

theorem encode_zero_value (width : Nat) : encode width 0 = List.replicate width 0 := by
  apply eq_of_decode_eq
  · simp
  · rw [decode_encode, decode_replicate_zero, Nat.zero_mod]

end LittleEndian

namespace Ty

theorem le_bytesForBits (bits : Nat) : bits ≤ 8 * bytesForBits bits := by
  rw [bytesForBits]
  split <;> omega

theorem bytesForBits_lt (bits : Nat) : 8 * bytesForBits bits < bits + 8 := by
  rw [bytesForBits]
  split <;> omega

theorem bytesForBits_eq (bits : Nat) : bytesForBits bits = (bits + 7) / 8 := by
  have enough := le_bytesForBits bits
  have close := bytesForBits_lt bits
  omega

theorem two_pow_dvd_256_pow {bits bytes : Nat} (room : bits ≤ 8 * bytes) :
    2 ^ bits ∣ 256 ^ bytes := by
  have bytewise : 256 ^ bytes = 2 ^ (8 * bytes) := by
    rw [Nat.pow_mul]
  rw [bytewise]
  exact Nat.pow_dvd_pow 2 room

end Ty

namespace VarInt

open LittleEndian

theorem length_clearHigh (excess : Nat) (bytes : Bytes) :
    (clearHigh excess bytes).length = bytes.length := by
  induction bytes using clearHigh.induct with
  | case1 => rfl
  | case2 byte => rfl
  | case3 byte rest _ ih => simp [clearHigh, ih]

theorem toNat_and_mask (byte : UInt8) {excess : Nat} (small : excess < 8) :
    (byte &&& (0xFF >>> UInt8.ofNat excess)).toNat = byte.toNat % 2 ^ (8 - excess) := by
  have mask : ((0xFF : UInt8) >>> UInt8.ofNat excess).toNat = 2 ^ (8 - excess) - 1 := by
    interval_cases excess <;> rfl
  rw [UInt8.toNat_and, mask, Nat.and_two_pow_sub_one_eq_mod]

theorem decode_clearHigh {excess : Nat} (small : excess < 8) {bytes : Bytes} (some : bytes ≠ []) :
    decode (clearHigh excess bytes) = decode bytes % 2 ^ (8 * bytes.length - excess) := by
  induction bytes using clearHigh.induct with
  | case1 => exact absurd rfl some
  | case2 byte => simpa [clearHigh] using toNat_and_mask byte small
  | case3 byte rest nonempty ih =>
      have low : byte.toNat < 256 := byte.toNat_lt
      have quotient : (byte.toNat + 256 * decode rest) / 256 = decode rest := by omega
      have remainder : (byte.toNat + 256 * decode rest) % 256 = byte.toNat := by omega
      have positive : 0 < rest.length := List.length_pos_iff.mpr nonempty
      have width : 2 ^ (8 * (byte :: rest).length - excess) =
          256 * 2 ^ (8 * rest.length - excess) := by
        rw [List.length_cons, show 8 * (rest.length + 1) - excess =
          8 + (8 * rest.length - excess) by omega, Nat.pow_add]
      rw [clearHigh, decode_cons, decode_cons, ih nonempty, width, Nat.mod_mul, quotient, remainder]
      exact nonempty

/-- The difference is less than eight, so it comes out right also where the bits of the bytes are
too many for a 32-bit word. -/
theorem toNat_excess (width : Nat) :
    (excess width).toNat = 8 * Ty.bytesForBits width - width := by
  have room := Ty.le_bytesForBits width
  have close := Ty.bytesForBits_lt width
  have split : UInt32.ofNat (8 * Ty.bytesForBits width) =
      UInt32.ofNat (8 * Ty.bytesForBits width - width) + UInt32.ofNat width := by
    rw [← UInt32.ofNat_add, Nat.sub_add_cancel room]
  rw [excess, split, UInt32.add_sub_cancel]
  exact UInt32.toNat_ofNat_of_lt' (by simp only [UInt32.size]; omega)

/-- Where the bits of the bytes fit a 32-bit word, the difference does not wrap around. -/
theorem excess_exact {width : Nat} (narrow : width ≤ 2 ^ 32 - 8) :
    UInt32.ofNat width ≤ UInt32.ofNat (8 * Ty.bytesForBits width) := by
  have room := Ty.le_bytesForBits width
  have close := Ty.bytesForBits_lt width
  have small : 8 * Ty.bytesForBits width < UInt32.size := by
    simp only [UInt32.size]
    omega
  rw [UInt32.le_iff_toNat_le, UInt32.toNat_ofNat_of_lt' small,
    UInt32.toNat_ofNat_of_lt' (Nat.lt_of_le_of_lt room small)]
  exact room

theorem length_store (width : Nat) (fill : UInt8) (bytes : Bytes) :
    (store width fill bytes).bytes.length = Ty.bytesForBits width := by
  simp only [store, length_clearHigh, List.length_take, List.length_append, List.length_replicate]
  omega

/-- Storing keeps the number modulo the range of the width, with missing bytes filled up. -/
theorem decode_store (width : Nat) (fill : UInt8) (bytes : Bytes) :
    decode (store width fill bytes).bytes =
      decode (bytes ++ List.replicate (Ty.bytesForBits width - bytes.length) fill) % 2 ^ width := by
  have room := Ty.le_bytesForBits width
  have close := Ty.bytesForBits_lt width
  generalize padded : bytes ++ List.replicate (Ty.bytesForBits width - bytes.length) fill = full
  have enough : Ty.bytesForBits width ≤ full.length := by
    rw [← padded, List.length_append, List.length_replicate]
    omega
  have cut : (full.take (Ty.bytesForBits width)).length = Ty.bytesForBits width := by
    rw [List.length_take]
    omega
  change decode (clearHigh _ (List.take _ (bytes ++ _))) = _
  rw [padded]
  by_cases none : Ty.bytesForBits width = 0
  · have zero : width = 0 := by omega
    subst zero
    rw [none, List.take_zero, Nat.pow_zero, Nat.mod_one]
    rfl
  · have nonempty : full.take (Ty.bytesForBits width) ≠ [] :=
      List.ne_nil_of_length_pos (by omega)
    have spare := toNat_excess width
    rw [decode_clearHigh (by omega) nonempty, cut, decode_take,
      show 8 * Ty.bytesForBits width - (excess width).toNat = width by omega]
    exact Nat.mod_mod_of_dvd _ (Ty.two_pow_dvd_256_pow room)

theorem toNat_toUInt64 (value : Int64) : (value.toUInt64.toNat : Int) = value.toInt % 2 ^ 64 := by
  change (value.toBitVec.toNat : Int) = value.toBitVec.toInt % 2 ^ 64
  have bound := value.toBitVec.isLt
  rw [BitVec.toInt_eq_toNat_cond]
  split <;> omega

theorem length_ofInt64 (width : Nat) (value : Int64) :
    (ofInt64 width value).bytes.length = Ty.bytesForBits width :=
  length_store ..

/-- A signed number is stored as its remainder modulo the range of the width. -/
theorem decode_ofInt64 (width : Nat) (value : Int64) :
    (decode (ofInt64 width value).bytes : Int) = value.toInt % 2 ^ width := by
  have room := Ty.le_bytesForBits width
  have word := toNat_toUInt64 value
  have small : value.toUInt64.toNat < 256 ^ 8 := by
    have bound := value.toUInt64.toNat_lt
    omega
  rw [ofInt64, decode_store, decode_append, length_encode, decode_encode, Nat.mod_eq_of_lt small]
  have enough : width ≤ 8 * (8 + (Ty.bytesForBits width - 8)) := by omega
  generalize Ty.bytesForBits width - 8 = extra at enough
  have low := value.le_toInt
  have high := value.toInt_lt
  by_cases negative : value < 0
  · -- The filling continues the sign, so the bytes denote the number plus a multiple of the range.
    have below : value.toInt < 0 := Int64.lt_iff_toInt_lt.mp negative
    have ones := decode_replicate_ones extra
    obtain ⟨factor, range⟩ := Ty.two_pow_dvd_256_pow enough
    rw [if_pos negative, Int.natCast_emod]
    have number :
        ((value.toUInt64.toNat + 256 ^ 8 * decode (List.replicate extra 0xFF) : Nat) : Int) =
          value.toInt + (2 ^ width : Nat) * (factor : Int) := by
      have whole : ((256 ^ 8 * (decode (List.replicate extra 0xFF) + 1) : Nat) : Int) =
          (2 ^ width : Nat) * (factor : Int) := by
        rw [ones, ← Nat.pow_add, range]
        push_cast
        rfl
      push_cast at whole ⊢
      omega
    rw [number]
    push_cast
    exact Int.add_mul_emod_self_left ..
  · have above : 0 ≤ value.toInt := by
      have := fun h => negative (Int64.lt_iff_toInt_lt.mpr h)
      exact Int.not_lt.mp this
    have number : (value.toUInt64.toNat : Int) = value.toInt := by omega
    rw [if_neg negative, decode_replicate_zero, Nat.mul_zero, Nat.add_zero, Int.natCast_emod,
      number]
    push_cast
    rfl

/-- The stored bytes of an integer read back as the same integer. -/
theorem ofBytes_ofInt64 (width : Nat) (value : Int64) :
    ofBytes width (ofInt64 width value).bytes = ofInt64 width value := by
  have small : decode (ofInt64 width value).bytes < 2 ^ width := by
    rw [ofInt64, decode_store]
    exact Nat.mod_lt _ (Nat.two_pow_pos width)
  have bytes : (ofBytes width (ofInt64 width value).bytes).bytes = (ofInt64 width value).bytes := by
    apply eq_of_decode_eq
    · rw [ofBytes, length_store, length_ofInt64]
    · rw [ofBytes, decode_store, length_ofInt64, Nat.sub_self, List.replicate_zero,
        List.append_nil, Nat.mod_eq_of_lt small]
  exact congrArg (VarInt.mk width) bytes

/-- Numbers that agree modulo the range of a width are stored alike. -/
theorem ofInt64_congr {width : Nat} {value other : Int64}
    (same : value.toInt % 2 ^ width = other.toInt % 2 ^ width) :
    ofInt64 width value = ofInt64 width other := by
  have number := decode_ofInt64 width value
  have number' := decode_ofInt64 width other
  have bytes : (ofInt64 width value).bytes = (ofInt64 width other).bytes := by
    apply eq_of_decode_eq
    · rw [length_ofInt64, length_ofInt64]
    · omega
  exact congrArg (VarInt.mk width) bytes

end VarInt

namespace LittleEndian

theorem ofNat_decode_encode_8 (word : UInt64) :
    UInt64.ofNat (decode (encode 8 word.toNat)) = word := by
  have small : word.toNat < 256 ^ 8 := by
    have bound := word.toNat_lt
    omega
  rw [decode_encode, Nat.mod_eq_of_lt small, UInt64.ofNat_toNat]

theorem ofNat_decode_encode_4 (word : UInt32) :
    UInt32.ofNat (decode (encode 4 word.toNat)) = word := by
  have small : word.toNat < 256 ^ 4 := by
    have bound := word.toNat_lt
    omega
  rw [decode_encode, Nat.mod_eq_of_lt small, UInt32.ofNat_toNat]

theorem ofNat_decode_encode_2 (word : UInt16) :
    UInt16.ofNat (decode (encode 2 word.toNat)) = word := by
  have small : word.toNat < 256 ^ 2 := by
    have bound := word.toNat_lt
    omega
  rw [decode_encode, Nat.mod_eq_of_lt small, UInt16.ofNat_toNat]

end LittleEndian

theorem Float80.ofBytes_toBytes (number : Float80) : ofBytes number.toBytes = number := by
  have first : number.toBytes.take 8 = LittleEndian.encode 8 number.fraction.toNat := by
    rw [toBytes, List.take_left' (LittleEndian.length_encode ..)]
  have second : number.toBytes.drop 8 = LittleEndian.encode 2 number.signExponent.toNat := by
    rw [toBytes, List.drop_left' (LittleEndian.length_encode ..)]
  rw [ofBytes, first, second, LittleEndian.ofNat_decode_encode_8,
    LittleEndian.ofNat_decode_encode_2]

theorem IntWidth.bits_of_ofBits? {bits : Nat} {width : IntWidth}
    (found : ofBits? bits = some width) : width.bits = bits := by
  unfold ofBits? at found
  split at found <;> cases found <;> rfl

namespace Scalar

/-- A number cut to a width, as a register holds it: directly at the standard widths, and with the
width carried along at all others. -/
def ofInt64 (bits : Nat) (value : Int64) : Scalar :=
  match IntWidth.ofBits? bits with
  | some .w1 => i1 (value.toInt % 2 == 1)
  | some .w8 => i8 value.toInt8
  | some .w16 => i16 value.toInt16
  | some .w32 => i32 value.toInt32
  | some .w64 => i64 value
  | none => varInt (.ofInt64 bits value)

/-- A number that a register holds has the stored form of the number it was cut from. -/
theorem toVarInt?_ofInt64 (bits : Nat) (value : Int64) :
    (ofInt64 bits value).toVarInt? bits = some (.ofInt64 bits value) := by
  cases found : IntWidth.ofBits? bits with
  | none =>
      simp only [ofInt64, found]
      exact if_pos rfl
  | some width =>
      obtain rfl := IntWidth.bits_of_ofBits? found
      simp only [ofInt64, found]
      cases width with
      | w1 =>
          refine congrArg some (VarInt.ofInt64_congr ?_)
          by_cases odd : value.toInt % 2 = 1
          · simp [odd, IntWidth.bits]
          · have even : value.toInt % 2 = 0 := by omega
            simp [even, IntWidth.bits]
      | w8 =>
          refine congrArg some (VarInt.ofInt64_congr ?_)
          rw [Int8.toInt_toInt64, Int64.toInt_toInt8]
          exact Int.bmod_emod
      | w16 =>
          refine congrArg some (VarInt.ofInt64_congr ?_)
          rw [Int16.toInt_toInt64, Int64.toInt_toInt16]
          exact Int.bmod_emod
      | w32 =>
          refine congrArg some (VarInt.ofInt64_congr ?_)
          rw [Int32.toInt_toInt64, Int64.toInt_toInt32]
          exact Int.bmod_emod
      | w64 => rfl

end Scalar

namespace ScalarKind

/-- The kind of scalar that integers of a width are read as. -/
def ofBits (bits : Nat) : ScalarKind := (IntWidth.ofBits? bits).elim (varInt bits) int

/-- A stored integer is read as the number cut to its width, by the reader of that width. -/
theorem decode_ofInt64 (bits : Nat) (value : Int64) :
    (ofBits bits).decode (VarInt.ofInt64 bits value).bytes = Scalar.ofInt64 bits value := by
  have number := VarInt.decode_ofInt64 bits value
  unfold ofBits Scalar.ofInt64 IntWidth.ofBits?
  split
  · simp only [Option.elim, decode]
    refine congrArg Scalar.i1 ?_
    have bit :
        LittleEndian.decode (VarInt.ofInt64 1 value).bytes % 2 = 1 ↔ value.toInt % 2 = 1 := by
      omega
    rw [Bool.eq_iff_iff, beq_iff_eq, beq_iff_eq]
    exact bit
  · simp only [Option.elim, decode]
    refine congrArg Scalar.i8 ?_
    rw [UInt8.toInt8_ofNat', ← Int8.ofInt_eq_ofNat, Int8.ofInt_eq_iff_bmod_eq_toInt, number,
      Int64.toInt_toInt8]
    exact Int.emod_bmod ..
  · simp only [Option.elim, decode]
    refine congrArg Scalar.i16 ?_
    rw [UInt16.toInt16_ofNat', ← Int16.ofInt_eq_ofNat, Int16.ofInt_eq_iff_bmod_eq_toInt, number,
      Int64.toInt_toInt16]
    exact Int.emod_bmod ..
  · simp only [Option.elim, decode]
    refine congrArg Scalar.i32 ?_
    rw [UInt32.toInt32_ofNat', ← Int32.ofInt_eq_ofNat, Int32.ofInt_eq_iff_bmod_eq_toInt, number,
      Int64.toInt_toInt32]
    exact Int.emod_bmod ..
  · simp only [Option.elim, decode]
    refine congrArg Scalar.i64 ?_
    rw [UInt64.toInt64_ofNat', ← Int64.ofInt_eq_ofNat, Int64.ofInt_eq_iff_bmod_eq_toInt, number]
    exact (Int.emod_bmod ..).trans value.toInt_bmod
  · simp only [Option.elim, decode, VarInt.ofBytes_ofInt64]

end ScalarKind

end IrMachine
