import IrMachine.Proofs.StoredForms

/-!
# Canonical integers

Every integer that carries its width is built by `VarInt.store`, which fills up the bytes that the
width needs and clears the bits above it. `VarInt.Canonical` is what all such integers have in
common, and by `VarInt.canonical_iff` no others have it. A canonical integer is known by its width
and its number, so reading it as bytes or as a signed word and building it again loses nothing, as
long as the word has room for the width.
-/

namespace IrMachine

namespace VarInt

open LittleEndian

/-- As many bytes as the width needs, with no bit set above the width. -/
structure Canonical (value : VarInt) : Prop where
  full : value.bytes.length = Ty.bytesForBits value.width
  cleared : decode value.bytes < 2 ^ value.width

theorem canonical_store (width : Nat) (fill : UInt8) (bytes : Bytes) :
    (store width fill bytes).Canonical := by
  refine ⟨length_store width fill bytes, ?_⟩
  rw [decode_store]
  exact Nat.mod_lt _ (Nat.two_pow_pos width)

theorem canonical_ofInt64 (width : Nat) (value : Int64) : (ofInt64 width value).Canonical :=
  canonical_store ..

namespace Canonical

variable {value other : VarInt}

/-- Canonical integers of one width are equal when they denote the same number. -/
theorem eq_of_decode_eq (canonical : value.Canonical) (canonical' : other.Canonical)
    (width : value.width = other.width) (number : decode value.bytes = decode other.bytes) :
    value = other := by
  have length : value.bytes.length = other.bytes.length := by
    rw [canonical.full, canonical'.full, width]
  have bytes := LittleEndian.eq_of_decode_eq length number
  obtain ⟨_, _⟩ := value
  obtain ⟨_, _⟩ := other
  exact (VarInt.mk.injEq ..).mpr ⟨width, bytes⟩

/-- An integer is what its own bytes are read as. -/
theorem ofBytes_bytes (canonical : value.Canonical) : ofBytes value.width value.bytes = value := by
  apply (canonical_store ..).eq_of_decode_eq canonical rfl
  rw [decode_store, canonical.full, Nat.sub_self, List.replicate_zero, List.append_nil]
  exact Nat.mod_eq_of_lt canonical.cleared

end Canonical

/-- The canonical integers are those that can be built. -/
theorem canonical_iff {value : VarInt} :
    value.Canonical ↔ ∃ bytes, ofBytes value.width bytes = value := by
  constructor
  · intro canonical
    exact ⟨value.bytes, canonical.ofBytes_bytes⟩
  · rintro ⟨bytes, built⟩
    rw [← built]
    exact canonical_store ..

/-- A word and its signed reading agree in their low bits. -/
theorem toInt_toInt64_emod (word : UInt64) {width : Nat} (narrow : width ≤ 64) :
    word.toInt64.toInt % 2 ^ width = ((word.toNat % 2 ^ width : Nat) : Int) := by
  have unsigned := toNat_toUInt64 word.toInt64
  rw [UInt64.toUInt64_toInt64] at unsigned
  have divides : (2 ^ width : Int) ∣ 2 ^ 64 := pow_dvd_pow 2 narrow
  push_cast
  rw [unsigned, Int.emod_emod_of_dvd _ divides]

/-- What is left of a number below a power of two when all bits but the highest are dropped. -/
theorem div_highest_bit {number index : Nat} (bound : number < 2 ^ (index + 1)) :
    number / 2 ^ index = if 2 ^ index ≤ number then 1 else 0 := by
  have quotient : number / 2 ^ index < 2 := by
    apply Nat.div_lt_of_lt_mul
    rw [← Nat.pow_succ]
    exact bound
  have upper : 1 ≤ number / 2 ^ index ↔ 2 ^ index ≤ number := by
    rw [Nat.le_div_iff_mul_le (Nat.two_pow_pos index), Nat.one_mul]
  generalize number / 2 ^ index = top at quotient upper ⊢
  split <;> omega

/-- A word that a word is shifted by is taken as it is, as long as it is below 64. -/
theorem toNat_shift_amount {amount : Nat} (small : amount < 64) :
    (UInt64.ofNat amount).toNat % 64 = amount := by
  rw [UInt64.toNat_ofNat', Nat.mod_eq_of_lt (by omega : amount < 2 ^ 64), Nat.mod_eq_of_lt small]

/-- Sign extension touches only the bits above the width. -/
theorem or_extension_mod (word : UInt64) {width : Nat} (narrow : width < 64) :
    (word ||| ((-1) <<< UInt64.ofNat width)).toNat % 2 ^ width = word.toNat % 2 ^ width := by
  have above : ((-1 : UInt64) <<< UInt64.ofNat width).toNat % 2 ^ width = 0 := by
    rw [UInt64.toNat_shiftLeft, toNat_shift_amount narrow, Nat.shiftLeft_eq,
      Nat.mod_mod_of_dvd _ (pow_dvd_pow 2 (Nat.le_of_lt narrow))]
    exact Nat.mul_mod_left ..
  rw [UInt64.toNat_or, Nat.or_mod_two_pow, above, Nat.or_zero]

theorem toUInt64_toNat (value : VarInt) :
    value.toUInt64.toNat = decode value.bytes % 2 ^ 64 := by
  rw [toUInt64, decode_take, UInt64.toNat_ofNat']
  exact Nat.mod_mod ..

/-- The signed reading agrees with the stored number up to the width. -/
theorem toInt64_emod (value : VarInt) (narrow : value.width ≤ 64) :
    value.toInt64.toInt % 2 ^ value.width =
      ((decode value.bytes % 2 ^ value.width : Nat) : Int) := by
  have low : value.toUInt64.toNat % 2 ^ value.width = decode value.bytes % 2 ^ value.width := by
    rw [toUInt64_toNat]
    exact Nat.mod_mod_of_dvd _ (pow_dvd_pow 2 narrow)
  rw [← low, toInt64]
  split
  · exact toInt_toInt64_emod _ narrow
  · split
    · rw [toInt_toInt64_emod _ narrow, or_extension_mod _ (by omega)]
    · exact toInt_toInt64_emod _ narrow

/-- An integer that fits a word is what its signed reading is cut to. -/
theorem Canonical.ofInt64_toInt64 {value : VarInt} (canonical : value.Canonical)
    (narrow : value.width ≤ 64) : ofInt64 value.width value.toInt64 = value := by
  apply (canonical_ofInt64 ..).eq_of_decode_eq canonical rfl
  have number := decode_ofInt64 value.width value.toInt64
  rw [toInt64_emod value narrow, Nat.mod_eq_of_lt canonical.cleared] at number
  exact Int.ofNat.inj number

end VarInt

end IrMachine
