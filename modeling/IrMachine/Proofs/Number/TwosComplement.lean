import IrMachine.Proofs.VarInt

/-!
# Two's complement at every width

An integer of `width` bits is a number below `2 ^ width`, however it was built: from bytes, from a
signed word or from an unsigned one. `VarInt.Built` are the integers that can be built,
`VarInt.signed` is the number that a pattern stands for when its highest bit counts as negative, and
`VarInt.TwosComplement` says what building and reading have to do with these two. It holds of every
width, also of those that a word is too narrow for and of width zero.
-/

namespace IrMachine

namespace VarInt

open LittleEndian

/-- The integers of a width that can be built. -/
inductive Built (width : Nat) : VarInt → Prop where
  | ofBytes (bytes : Bytes) : Built width (ofBytes width bytes)
  | ofInt64 (value : Int64) : Built width (ofInt64 width value)
  | ofUInt64 (value : UInt64) : Built width (ofUInt64 width value)

theorem Built.canonical {width : Nat} {value : VarInt} (built : Built width value) :
    value.Canonical := by
  cases built with
  | ofBytes bytes => exact canonical_store ..
  | ofInt64 value => exact canonical_store ..
  | ofUInt64 value => exact canonical_store ..

theorem Built.width_eq {width : Nat} {value : VarInt} (built : Built width value) :
    value.width = width := by
  cases built <;> rfl

/-- The number that a pattern of `width` bits stands for in two's complement: a pattern whose
highest bit is set stands for a negative number. -/
def signed (width pattern : Nat) : Int :=
  if 2 * pattern < 2 ^ width then pattern else (pattern : Int) - 2 ^ width

/-- The signed reading of a word. -/
theorem toInt_toInt64 (word : UInt64) : word.toInt64.toInt = signed 64 word.toNat :=
  BitVec.toInt_eq_toNat_cond _

/-- Patterns stand for the numbers from `-2 ^ (width - 1)` up to `2 ^ (width - 1)`, and a number in
that range is what its remainder stands for. -/
theorem signed_emod_eq_iff {width : Nat} (positive : 0 < width) (value : Int) :
    signed width (value % 2 ^ width).toNat = value ↔
      -2 ^ (width - 1) ≤ value ∧ value < 2 ^ (width - 1) := by
  obtain ⟨less, rfl⟩ : ∃ less, width = less + 1 := ⟨width - 1, by omega⟩
  have half : (2 ^ (less + 1) : Int) = 2 * 2 ^ less := by ring
  have range : (0 : Int) < 2 ^ less := by positivity
  have low := Int.emod_nonneg value (by omega : (2 ^ (less + 1) : Int) ≠ 0)
  have high := Int.emod_lt_of_pos value (by omega : (0 : Int) < 2 ^ (less + 1))
  have pattern : ((value % 2 ^ (less + 1)).toNat : Int) = value % 2 ^ (less + 1) :=
    Int.toNat_of_nonneg low
  have bit : 2 * (value % 2 ^ (less + 1)).toNat < 2 ^ (less + 1) ↔
      2 * (value % 2 ^ (less + 1)) < 2 ^ (less + 1) := by
    rw [← pattern]
    norm_cast
  rw [Nat.add_sub_cancel, signed, pattern]
  simp only [bit]
  constructor
  · intro same
    split at same <;> omega
  · rintro ⟨above, below⟩
    by_cases negative : value < 0
    · have moved : value % 2 ^ (less + 1) = value + 2 ^ (less + 1) := by
        rw [← Int.add_emod_right, Int.emod_eq_of_lt (by omega) (by omega)]
      rw [moved, if_neg (by omega)]
      omega
    · rw [Int.emod_eq_of_lt (by omega) (by omega), if_pos (by omega)]

/-- The highest bit of a pattern tells whether it is in the upper half of its range. -/
theorem highest_bit_iff {word : UInt64} {width : Nat} (positive : 0 < width) (narrow : width < 64)
    (fits : word.toNat < 2 ^ width) :
    (word >>> UInt64.ofNat (width - 1)) &&& 1 = 1 ↔ ¬ 2 * word.toNat < 2 ^ width := by
  obtain ⟨less, rfl⟩ : ∃ less, width = less + 1 := ⟨width - 1, by omega⟩
  have half : 2 ^ (less + 1) = 2 * 2 ^ less := by ring
  rw [← UInt64.toNat_inj, UInt64.toNat_and, UInt64.toNat_shiftRight, Nat.add_sub_cancel,
    toNat_shift_amount (by omega), Nat.shiftRight_eq_div_pow, div_highest_bit fits]
  split
  · next high => exact iff_of_true rfl (by omega)
  · next low => exact iff_of_false (by decide) (by omega)

/-- Setting all bits above a pattern adds their weight. -/
theorem toNat_or_extension {word : UInt64} {width : Nat} (narrow : width < 64)
    (fits : word.toNat < 2 ^ width) :
    (word ||| ((-1) <<< UInt64.ofNat width)).toNat = word.toNat + (2 ^ 64 - 2 ^ width) := by
  have whole : 2 ^ 64 = 2 ^ width * 2 ^ (64 - width) := by
    rw [← Nat.pow_add, Nat.add_sub_cancel' (Nat.le_of_lt narrow)]
  have ones : (-1 : UInt64).toNat =
      2 ^ (64 - width) * (2 ^ width - 1) + (2 ^ (64 - width) - 1) := by
    have positive := Nat.two_pow_pos width
    have positive' := Nat.two_pow_pos (64 - width)
    change 2 ^ 64 - 1 = _
    rw [Nat.mul_sub, Nat.mul_comm, ← whole, Nat.mul_one]
    have below : 2 ^ (64 - width) ≤ 2 ^ 64 := Nat.pow_le_pow_right (by omega) (by omega)
    omega
  have extension : ((-1 : UInt64) <<< UInt64.ofNat width).toNat =
      2 ^ width * (2 ^ (64 - width) - 1) := by
    have last : 2 ^ (64 - width) - 1 < 2 ^ (64 - width) :=
      Nat.sub_lt (Nat.two_pow_pos _) Nat.one_pos
    rw [UInt64.toNat_shiftLeft, toNat_shift_amount narrow, ones, Nat.shiftLeft_eq, Nat.mul_comm,
      whole, Nat.mul_mod_mul_left, Nat.mul_add_mod, Nat.mod_eq_of_lt last]
  rw [UInt64.toNat_or, extension, Nat.or_comm, ← Nat.two_pow_add_eq_or_of_lt fits, Nat.mul_sub,
    ← whole, Nat.mul_one, Nat.add_comm]

/-- Below 64 bits, the signed reading is the number that the stored pattern stands for. -/
theorem Canonical.toInt_toInt64 {value : VarInt} (canonical : value.Canonical)
    (positive : 0 < value.width) (narrow : value.width < 64) :
    value.toInt64.toInt = signed value.width (decode value.bytes) := by
  have range : 2 ^ value.width ≤ 2 ^ 63 := Nat.pow_le_pow_right (by omega) (by omega)
  have cleared := canonical.cleared
  have raw : value.toUInt64.toNat = decode value.bytes := by
    rw [toUInt64_toNat, Nat.mod_eq_of_lt (by omega)]
  rw [← raw] at cleared ⊢
  have bit := highest_bit_iff positive narrow cleared
  rw [toInt64, if_neg (by omega), signed]
  split
  · next set =>
      have upper := bit.mp set
      rw [VarInt.toInt_toInt64, toNat_or_extension narrow cleared, signed, if_neg upper,
        if_neg (by omega), Nat.cast_add, Nat.cast_sub (by omega)]
      push_cast
      ring
  · next clear =>
      have lower : 2 * value.toUInt64.toNat < 2 ^ value.width := by
        by_contra upper
        exact clear (bit.mpr upper)
      rw [VarInt.toInt_toInt64, signed, if_pos lower, if_pos (by omega)]

/-- From 64 bits on, the signed reading is the number that the low word stands for. -/
theorem toInt_toInt64_of_wide {value : VarInt} (wide : 64 ≤ value.width) :
    value.toInt64.toInt = signed 64 (decode value.bytes % 2 ^ 64) := by
  rw [toInt64, if_pos (.inr wide), toInt_toInt64, toUInt64_toNat]

theorem Canonical.toInt64_of_empty {value : VarInt} (canonical : value.Canonical)
    (empty : value.width = 0) : value.toInt64 = 0 := by
  have nothing : decode value.bytes = 0 := by
    have cleared := canonical.cleared
    rw [empty] at cleared
    omega
  have raw : value.toUInt64 = 0 := by
    rw [← UInt64.toNat_inj, toUInt64_toNat, nothing]
    rfl
  rw [toInt64, if_pos (.inl empty), raw]
  rfl

/-- A signed word comes back from an integer that has room for all of its bits. -/
theorem toInt64_ofInt64_of_wide {width : Nat} (wide : 64 ≤ width) (value : Int64) :
    (ofInt64 width value).toInt64 = value := by
  have number := decode_ofInt64 width value
  have divides : (2 ^ 64 : Int) ∣ 2 ^ width := pow_dvd_pow 2 wide
  have low : (decode (ofInt64 width value).bytes % 2 ^ 64 : Nat) = value.toUInt64.toNat := by
    have word := toNat_toUInt64 value
    have cut := Int.emod_emod_of_dvd value.toInt divides
    rw [← number] at cut
    omega
  rw [← Int64.toInt_inj, toInt_toInt64_of_wide wide, low, ← toInt_toInt64, Int64.toInt64_toUInt64]

/-- How a number is kept at a width: in as many bytes as the bits need, least significant first. -/
structure Keeps (value : VarInt) (width number : Nat) : Prop where
  width_eq : value.width = width
  size : value.byteSize = (width + 7) / 8
  number : decode value.bytes = number

theorem Canonical.keeps {value : VarInt} (canonical : value.Canonical) :
    value.Keeps value.width (decode value.bytes) := by
  refine ⟨rfl, ?_, rfl⟩
  rw [byteSize, canonical.full, Ty.bytesForBits_eq]

theorem ofBytes_keeps (width : Nat) (bytes : Bytes) :
    (ofBytes width bytes).Keeps width (decode bytes % 2 ^ width) := by
  have number : decode (ofBytes width bytes).bytes = decode bytes % 2 ^ width := by
    rw [ofBytes, decode_store, decode_append, decode_replicate_zero, Nat.mul_zero, Nat.add_zero]
  rw [← number]
  exact (canonical_store width 0 bytes).keeps

theorem ofInt64_keeps (width : Nat) (value : Int64) :
    (ofInt64 width value).Keeps width (value.toInt % 2 ^ width).toNat := by
  rw [← decode_ofInt64, Int.toNat_natCast]
  exact (canonical_ofInt64 width value).keeps

theorem ofUInt64_keeps (width : Nat) (value : UInt64) :
    (ofUInt64 width value).Keeps width (value.toNat % 2 ^ width) := by
  have word : decode (encode 8 value.toNat) = value.toNat := by
    rw [decode_encode]
    exact Nat.mod_eq_of_lt value.toNat_lt
  have keeps := ofBytes_keeps width (encode 8 value.toNat)
  rw [word] at keeps
  exact keeps

/-- A signed word comes back from an integer exactly when it lies in the range of the width. -/
theorem toInt64_ofInt64_iff {width : Nat} (positive : 0 < width) (value : Int64) :
    (ofInt64 width value).toInt64 = value ↔
      64 ≤ width ∨ -2 ^ (width - 1) ≤ value.toInt ∧ value.toInt < 2 ^ (width - 1) := by
  by_cases wide : 64 ≤ width
  · simp only [toInt64_ofInt64_of_wide wide, wide, true_or]
  · have reading : (ofInt64 width value).toInt64.toInt =
        signed width (value.toInt % 2 ^ width).toNat := by
      rw [← (ofInt64_keeps width value).number]
      exact (canonical_ofInt64 width value).toInt_toInt64 positive (Nat.lt_of_not_le wide)
    rw [← Int64.toInt_inj, reading, signed_emod_eq_iff positive, or_iff_right wide]

/-- What building and reading integers of one width comes to. -/
structure TwosComplement (width : Nat) : Prop where
  /-- Every way of building keeps its input modulo the range of the width. -/
  ofBytes : ∀ bytes, (ofBytes width bytes).Keeps width (decode bytes % 2 ^ width)
  ofInt64 : ∀ value, (ofInt64 width value).Keeps width (value.toInt % 2 ^ width).toNat
  ofUInt64 : ∀ value, (ofUInt64 width value).Keeps width (value.toNat % 2 ^ width)
  /-- Integers are equal when they denote the same number, so nothing is kept above the width. -/
  eq_iff : ∀ value other, Built width value → Built width other →
    (value = other ↔ decode value.bytes = decode other.bytes)
  unsigned : ∀ value, Built width value → value.toUInt64.toNat = decode value.bytes % 2 ^ 64
  /-- The signed reading is two's complement at the width, or of the low word of a wider integer. -/
  narrow : ∀ value, Built width value → 0 < width → width < 64 →
    value.toInt64.toInt = signed width (decode value.bytes)
  empty : ∀ value, Built width value → width = 0 → value.toInt64 = 0
  wide : ∀ value, Built width value → 64 ≤ width →
    value.toInt64.toInt = signed 64 (decode value.bytes % 2 ^ 64)
  /-- Up to 64 bits, an integer is known by its signed reading. -/
  ofInt64_toInt64 : ∀ value, Built width value → width ≤ 64 →
    VarInt.ofInt64 width value.toInt64 = value
  /-- A signed word is read back exactly when it lies in the range of the width. -/
  toInt64_ofInt64 : ∀ value, 0 < width →
    ((VarInt.ofInt64 width value).toInt64 = value ↔
      64 ≤ width ∨ -2 ^ (width - 1) ≤ value.toInt ∧ value.toInt < 2 ^ (width - 1))

/-- Integers that carry their width are two's complement at every width. -/
theorem twosComplement_at_every_width (width : Nat) : TwosComplement width where
  ofBytes := ofBytes_keeps width
  ofInt64 := ofInt64_keeps width
  ofUInt64 := ofUInt64_keeps width
  eq_iff := by
    intro value other built built'
    constructor
    · rintro rfl
      rfl
    · intro number
      exact built.canonical.eq_of_decode_eq built'.canonical
        (built.width_eq.trans built'.width_eq.symm) number
  unsigned := fun value _ => toUInt64_toNat value
  narrow := by
    intro value built positive narrow
    rw [← built.width_eq] at positive narrow ⊢
    exact built.canonical.toInt_toInt64 positive narrow
  empty := by
    intro value built empty
    exact built.canonical.toInt64_of_empty (built.width_eq.trans empty)
  wide := by
    intro value built wide
    rw [← built.width_eq] at wide
    exact toInt_toInt64_of_wide wide
  ofInt64_toInt64 := by
    intro value built narrow
    rw [← built.width_eq] at narrow ⊢
    exact built.canonical.ofInt64_toInt64 narrow
  toInt64_ofInt64 := fun value positive => toInt64_ofInt64_iff positive value

end VarInt

end IrMachine
