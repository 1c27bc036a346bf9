import IrMachine.Number.Extended
import IrMachine.Proofs.VarInt
import Mathlib.Algebra.Field.Rat
import Mathlib.Data.Nat.Bitwise
import Mathlib.Tactic.FieldSimp
import Mathlib.Tactic.NormNum

/-!
# Widening is exact

A double is a sign, an exponent field and a mantissa, and so is the number of the extended format
that it becomes. `Float80.wideExponent` and `Float80.wideFraction` say what the exponent field and
the mantissa turn into, in unbounded arithmetic, and `Float80.ofDouble_eq` that the conversion on
words computes just that. From there on exactness is arithmetic with powers of two, and a double can
be told from what it becomes, because zeros, subnormal and normal numbers and the rest get exponents
in different ranges.
-/

namespace IrMachine

namespace Double

def field (x : Double) : Nat := BinaryFormat.double.exponentField x.bits.toNat

/-- The fraction that is stored, without the integer bit. -/
def mantissa (x : Double) : Nat := BinaryFormat.double.fraction x.bits.toNat

theorem mantissa_eq (x : Double) : x.mantissa = x.bits.toNat % 2 ^ 52 := rfl

theorem field_eq (x : Double) : x.field = x.bits.toNat / 2 ^ 52 % 2 ^ 11 := by
  rw [← Nat.shiftRight_eq_div_pow]
  rfl

theorem negative_iff (x : Double) : x.negative = true ↔ x.bits.toNat / 2 ^ 63 % 2 = 1 :=
  beq_iff_eq

theorem mantissa_lt (x : Double) : x.mantissa < 2 ^ 52 := Nat.mod_lt _ (by decide)

theorem field_lt (x : Double) : x.field < 2 ^ 11 := Nat.mod_lt _ (by decide)

/-- A double is known by its sign, its exponent field and its mantissa. -/
theorem eq_of_fields {x y : Double} (sign : x.negative = y.negative) (field : x.field = y.field)
    (mantissa : x.mantissa = y.mantissa) : x = y := by
  have bits : x.bits.toNat = y.bits.toNat := by
    have bound := x.bits.toNat_lt
    have bound' := y.bits.toNat_lt
    have sign' := Bool.eq_iff_iff.mp sign
    rw [negative_iff, negative_iff] at sign'
    rw [field_eq, field_eq] at field
    rw [mantissa_eq, mantissa_eq] at mantissa
    omega
  obtain ⟨_⟩ := x
  obtain ⟨_⟩ := y
  exact congrArg Double.mk (UInt64.toNat_inj.mp bits)

/-- What a double denotes, by its exponent field and its mantissa. -/
theorem reading_eq (x : Double) :
    x.reading =
      if x.field = 0x7FF then if x.mantissa = 0 then .infinite else .nan
      else if x.field = 0 then .finite x.mantissa (-1074)
      else .finite (2 ^ 52 + x.mantissa) (-1074 + (x.field - 1 : Nat)) :=
  rfl

theorem reading_eq_infinite_iff (x : Double) :
    x.reading = .infinite ↔ x.field = 0x7FF ∧ x.mantissa = 0 := by
  rw [reading_eq]
  by_cases special : x.field = 0x7FF
  · by_cases nothing : x.mantissa = 0 <;> simp [special, nothing]
  · by_cases subnormal : x.field = 0 <;> simp [special, subnormal]

theorem reading_eq_nan_iff (x : Double) :
    x.reading = .nan ↔ x.field = 0x7FF ∧ x.mantissa ≠ 0 := by
  rw [reading_eq]
  by_cases special : x.field = 0x7FF
  · by_cases nothing : x.mantissa = 0 <;> simp [special, nothing]
  · by_cases subnormal : x.field = 0 <;> simp [special, subnormal]

end Double

namespace Float80

/-- The highest bit of a number below a power of two. -/
theorem and_highest_bit {number index : Nat} (bound : number < 2 ^ (index + 1)) :
    number &&& 2 ^ index = if 2 ^ index ≤ number then 2 ^ index else 0 := by
  rw [Nat.and_two_pow, Nat.testBit_eq_decide_div_mod_eq, VarInt.div_highest_bit bound]
  by_cases high : 2 ^ index ≤ number
  · simp [high]
  · simp [high]

theorem toNat_exponent (x : Float80) : x.exponent.toNat = x.signExponent.toNat % 2 ^ 15 := by
  rw [exponent, UInt16.toNat_and]
  exact Nat.and_two_pow_sub_one_eq_mod _ 15

theorem negative_iff (x : Float80) : x.negative = true ↔ 2 ^ 15 ≤ x.signExponent.toNat := by
  have bit : (x.signExponent &&& signBit).toNat =
      if 2 ^ 15 ≤ x.signExponent.toNat then 2 ^ 15 else 0 := by
    rw [UInt16.toNat_and]
    exact and_highest_bit x.signExponent.toNat_lt
  rw [negative, bne_iff_ne, ne_eq, ← UInt16.toNat_inj, bit]
  split
  · next high => exact iff_of_true (by decide) high
  · next low => exact iff_of_false (by decide) low

/-- The bits of the fraction below the integer bit. -/
theorem toNat_below_integerBit (x : Float80) :
    (x.fraction &&& ~~~integerBit).toNat = x.fraction.toNat % 2 ^ 63 := by
  rw [UInt64.toNat_and]
  exact Nat.and_two_pow_sub_one_eq_mod _ 63

theorem integerBit_set_iff (x : Float80) :
    x.fraction &&& integerBit = integerBit ↔ 2 ^ 63 ≤ x.fraction.toNat := by
  have bit : (x.fraction &&& integerBit).toNat =
      if 2 ^ 63 ≤ x.fraction.toNat then 2 ^ 63 else 0 := by
    rw [UInt64.toNat_and]
    exact and_highest_bit x.fraction.toNat_lt
  rw [← UInt64.toNat_inj, bit]
  split
  · next high => exact iff_of_true rfl high
  · next low => exact iff_of_false (by decide) low

theorem isInfinite_iff (x : Float80) :
    x.isInfinite = true ↔ x.exponent.toNat = 0x7FFF ∧ x.fraction.toNat % 2 ^ 63 = 0 := by
  rw [isInfinite, Bool.and_eq_true, beq_iff_eq, beq_iff_eq, ← UInt16.toNat_inj, ← UInt64.toNat_inj,
    toNat_below_integerBit]
  rfl

/-- The exponent that a double gets in the extended format. -/
def wideExponent (field mantissa : Nat) : Nat :=
  if field = 0 then if mantissa = 0 then 0 else 15309 + mantissa.log2
  else if field = 0x7FF then 0x7FFF
  else field + 15360

/-- The fraction that a double gets in the extended format: a mantissa without an integer bit is
moved up until its highest bit is one. -/
def wideFraction (field mantissa : Nat) : Nat :=
  if field = 0 then mantissa * 2 ^ (63 - mantissa.log2) else 2 ^ 63 + mantissa * 2 ^ 11

theorem log2_lt {mantissa : Nat} (bound : mantissa < 2 ^ 52) : mantissa.log2 < 52 := by
  by_cases zero : mantissa = 0
  · rw [zero]
    decide
  · exact (Nat.log2_lt zero).mpr bound

/-- A mantissa that is moved up has its highest bit where the integer bit is. -/
theorem normalised_shift {mantissa : Nat} (some : mantissa ≠ 0) (bound : mantissa < 2 ^ 52) :
    2 ^ 63 ≤ mantissa * 2 ^ (63 - mantissa.log2) ∧
      mantissa * 2 ^ (63 - mantissa.log2) < 2 ^ 64 := by
  have small := log2_lt bound
  have low := Nat.log2_self_le some
  have high : mantissa < 2 ^ (mantissa.log2 + 1) := Nat.lt_log2_self
  constructor
  · calc
      2 ^ 63 = 2 ^ mantissa.log2 * 2 ^ (63 - mantissa.log2) := by
        rw [← Nat.pow_add]
        congr 1
        omega
      _ ≤ mantissa * 2 ^ (63 - mantissa.log2) := Nat.mul_le_mul_right _ low
  · calc
      mantissa * 2 ^ (63 - mantissa.log2) < 2 ^ (mantissa.log2 + 1) * 2 ^ (63 - mantissa.log2) :=
        Nat.mul_lt_mul_of_pos_right high (Nat.two_pow_pos _)
      _ = 2 ^ 64 := by
        rw [← Nat.pow_add]
        congr 1
        omega

theorem wideExponent_lt {field mantissa : Nat} (range : field < 2 ^ 11)
    (bound : mantissa < 2 ^ 52) : wideExponent field mantissa < 2 ^ 15 := by
  have small := log2_lt bound
  rw [wideExponent]
  split
  · split <;> omega
  · split <;> omega

theorem wideFraction_lt {field mantissa : Nat} (bound : mantissa < 2 ^ 52) :
    wideFraction field mantissa < 2 ^ 64 := by
  rw [wideFraction]
  split
  · by_cases zero : mantissa = 0
    · rw [zero, Nat.zero_mul]
      decide
    · exact (normalised_shift zero bound).2
  · omega

/-- A sign and an exponent in one word. -/
theorem toNat_pack (negative : Bool) {exponent : Nat} (bound : exponent < 2 ^ 15) :
    ((if negative then signBit else 0) ||| UInt16.ofNat exponent).toNat =
      (if negative then 2 ^ 15 else 0) + exponent := by
  have small : (UInt16.ofNat exponent).toNat = exponent :=
    UInt16.toNat_ofNat_of_lt' (Nat.lt_trans bound (by decide))
  rw [UInt16.toNat_or, small]
  cases negative with
  | true => exact (Nat.two_pow_add_eq_or_of_lt bound 1).symm
  | false => exact (Nat.zero_or exponent).trans (Nat.zero_add exponent).symm

/-- A shift that loses no bit is a product. -/
theorem toNat_shiftLeft_of_fits {word : UInt64} {amount : Nat} (small : amount < 64)
    (fits : word.toNat * 2 ^ amount < 2 ^ 64) :
    (word <<< UInt64.ofNat amount).toNat = word.toNat * 2 ^ amount := by
  rw [UInt64.toNat_shiftLeft, VarInt.toNat_shift_amount small, Nat.shiftLeft_eq,
    Nat.mod_eq_of_lt fits]

/-- A mantissa with the integer bit in front of it. -/
theorem toNat_with_integerBit {word : UInt64} (bound : word.toNat < 2 ^ 52) :
    (integerBit ||| (word <<< 11)).toNat = 2 ^ 63 + word.toNat * 2 ^ 11 := by
  have shifted : (word <<< 11).toNat = word.toNat * 2 ^ 11 :=
    @toNat_shiftLeft_of_fits word 11 (by decide) (by omega)
  have below : word.toNat * 2 ^ 11 < 2 ^ 63 := by omega
  rw [UInt64.toNat_or, shifted]
  exact (Nat.two_pow_add_eq_or_of_lt below 1).symm

/-- The conversion sets the sign, the exponent and the fraction that it should. -/
theorem ofDouble_eq (x : Double) :
    ofDouble x =
      ⟨(if x.negative then signBit else 0) ||| UInt16.ofNat (wideExponent x.field x.mantissa),
        UInt64.ofNat (wideFraction x.field x.mantissa)⟩ := by
  have bound := x.mantissa_lt
  have word : (UInt64.ofNat x.mantissa).toNat = x.mantissa :=
    UInt64.toNat_ofNat_of_lt' (Nat.lt_trans bound (by decide))
  have zero : UInt64.ofNat x.mantissa = 0 ↔ x.mantissa = 0 := by
    rw [← UInt64.toNat_inj, word]
    rfl
  have fieldDef : BinaryFormat.double.exponentField x.bits.toNat = x.field := rfl
  have mantissaDef : BinaryFormat.double.fraction x.bits.toNat = x.mantissa := rfl
  have wide : integerBit ||| (UInt64.ofNat x.mantissa <<< 11) =
      UInt64.ofNat (2 ^ 63 + x.mantissa * 2 ^ 11) := by
    rw [← UInt64.ofNat_toNat (x := integerBit ||| _), toNat_with_integerBit (by omega), word]
  simp only [ofDouble, fieldDef, mantissaDef, wide, wideExponent, wideFraction, zero]
  by_cases subnormal : x.field = 0
  · by_cases nothing : x.mantissa = 0
    · simp [subnormal, nothing]
    · have small := log2_lt bound
      have zeros : leadingZeros (UInt64.ofNat x.mantissa) = 63 - x.mantissa.log2 := by
        rw [leadingZeros, if_neg (zero.not.mpr nothing), word]
      have moved : UInt64.ofNat x.mantissa <<< UInt64.ofNat (63 - x.mantissa.log2) =
          UInt64.ofNat (x.mantissa * 2 ^ (63 - x.mantissa.log2)) := by
        have fits := (normalised_shift nothing bound).2
        rw [← UInt64.ofNat_toNat (x := _ <<< _),
          toNat_shiftLeft_of_fits (by omega) (by rw [word]; exact fits), word]
      have exponent : 15372 - (63 - x.mantissa.log2) = 15309 + x.mantissa.log2 := by omega
      simp only [if_pos subnormal, if_neg nothing, zeros, moved, exponent]
  · simp only [if_neg subnormal]
    split
    · rfl
    · rw [show x.field + 16383 - 1023 = x.field + 15360 by omega]

theorem signExponent_ofDouble (x : Double) :
    (ofDouble x).signExponent.toNat =
      (if x.negative then 2 ^ 15 else 0) + wideExponent x.field x.mantissa := by
  rw [ofDouble_eq]
  exact toNat_pack x.negative (wideExponent_lt x.field_lt x.mantissa_lt)

theorem toNat_fraction_ofDouble (x : Double) :
    (ofDouble x).fraction.toNat = wideFraction x.field x.mantissa := by
  rw [ofDouble_eq]
  exact UInt64.toNat_ofNat_of_lt' (wideFraction_lt x.mantissa_lt)

@[simp] theorem negative_ofDouble (x : Double) : (ofDouble x).negative = x.negative := by
  have bound := wideExponent_lt x.field_lt x.mantissa_lt
  rw [Bool.eq_iff_iff, negative_iff, signExponent_ofDouble]
  cases x.negative with
  | true => simp
  | false => simpa using bound

theorem exponent_ofDouble (x : Double) :
    (ofDouble x).exponent.toNat = wideExponent x.field x.mantissa := by
  have bound := wideExponent_lt x.field_lt x.mantissa_lt
  rw [toNat_exponent, signExponent_ofDouble]
  split <;> omega

/-- The exponent field of a double can be told from the exponent that it gets. -/
theorem field_eq_of_wideExponent {field mantissa : Nat} (range : field < 2 ^ 11)
    (bound : mantissa < 2 ^ 52) :
    field =
      if wideExponent field mantissa < 15361 then 0
      else if wideExponent field mantissa = 0x7FFF then 0x7FF
      else wideExponent field mantissa - 15360 := by
  have small := log2_lt bound
  by_cases subnormal : field = 0
  · rw [wideExponent, if_pos subnormal]
    split <;> split <;> omega
  · rw [wideExponent, if_neg subnormal]
    split
    · simp [*]
    · rw [if_neg (by omega), if_neg (by omega)]
      omega

/-- So can the mantissa, from the fraction. -/
theorem mantissa_eq_of_wide {field mantissa mantissa' : Nat}
    (exponents : wideExponent field mantissa = wideExponent field mantissa')
    (fractions : wideFraction field mantissa = wideFraction field mantissa') :
    mantissa = mantissa' := by
  by_cases subnormal : field = 0
  · simp only [wideExponent, wideFraction, if_pos subnormal] at exponents fractions
    by_cases zero : mantissa = 0
    · rw [if_pos zero] at exponents
      split at exponents <;> omega
    · rw [if_neg zero] at exponents
      have digits : mantissa.log2 = mantissa'.log2 := by
        split at exponents <;> omega
      rw [digits] at fractions
      exact Nat.eq_of_mul_eq_mul_right (Nat.two_pow_pos _) fractions
  · simp only [wideFraction, if_neg subnormal] at fractions
    omega

theorem ofDouble_injective : Function.Injective ofDouble := by
  intro x y same
  have exponents : wideExponent x.field x.mantissa = wideExponent y.field y.mantissa := by
    rw [← exponent_ofDouble, ← exponent_ofDouble, same]
  have fractions : wideFraction x.field x.mantissa = wideFraction y.field y.mantissa := by
    rw [← toNat_fraction_ofDouble, ← toNat_fraction_ofDouble, same]
  have field : x.field = y.field := by
    rw [field_eq_of_wideExponent x.field_lt x.mantissa_lt, exponents,
      ← field_eq_of_wideExponent y.field_lt y.mantissa_lt]
  have sign : x.negative = y.negative := by
    rw [← negative_ofDouble, same, negative_ofDouble]
  rw [field] at exponents fractions
  exact Double.eq_of_fields sign field (mantissa_eq_of_wide exponents fractions)

end Float80

def signFactor (negative : Bool) : ℚ := if negative then -1 else 1

namespace Double

def value? (x : Double) : Option ℚ :=
  match x.reading with
  | .finite significand exponent => some (signFactor x.negative * (significand * 2 ^ exponent))
  | _ => none

/-- The finite doubles are those whose exponent field is not all ones. -/
theorem value?_eq_some_iff {x : Double} {value : ℚ} :
    x.value? = some value ↔ x.field ≠ 0x7FF ∧ value = signFactor x.negative *
      if x.field = 0 then (x.mantissa : ℚ) * 2 ^ (-1074 : ℤ)
      else ((2 ^ 52 + x.mantissa : Nat) : ℚ) * 2 ^ (-1074 + ((x.field - 1 : Nat) : ℤ)) := by
  rw [value?, reading_eq]
  by_cases special : x.field = 0x7FF
  · by_cases nothing : x.mantissa = 0 <;> simp [special, nothing]
  · by_cases subnormal : x.field = 0
    · simp only [if_neg special, if_pos subnormal, Option.some.injEq]
      exact ⟨fun same => ⟨special, same.symm⟩, fun same => same.2.symm⟩
    · simp only [if_neg special, if_neg subnormal, Option.some.injEq]
      exact ⟨fun same => ⟨special, same.symm⟩, fun same => same.2.symm⟩

end Double

namespace Float80

def value (x : Float80) : ℚ :=
  signFactor x.negative * (x.fraction.toNat * 2 ^ ((x.exponent.toNat : ℤ) - 16383 - 63))

/-- Moving a number up by some bits is made good by the exponent. -/
theorem scale_up (number shift : Nat) (exponent : ℤ) :
    ((number * 2 ^ shift : Nat) : ℚ) * 2 ^ (exponent - shift) = number * 2 ^ exponent := by
  rw [zpow_sub₀ two_ne_zero, zpow_natCast]
  push_cast
  field_simp

/-- A mantissa without an integer bit keeps its value. -/
theorem wide_subnormal {mantissa : Nat} (bound : mantissa < 2 ^ 52) :
    (wideFraction 0 mantissa : ℚ) * 2 ^ ((wideExponent 0 mantissa : ℤ) - 16383 - 63) =
      mantissa * 2 ^ (-1074 : ℤ) := by
  have small := log2_lt bound
  rw [wideFraction, if_pos rfl, wideExponent, if_pos rfl]
  by_cases zero : mantissa = 0
  · simp [zero]
  · have exponent : ((15309 + mantissa.log2 : Nat) : ℤ) - 16383 - 63 =
        -1074 - ((63 - mantissa.log2 : Nat) : ℤ) := by omega
    rw [if_neg zero, exponent, scale_up]

/-- So does a mantissa with an integer bit. -/
theorem wide_normal {field : Nat} (mantissa : Nat) (normal : field ≠ 0) (finite : field ≠ 0x7FF) :
    (wideFraction field mantissa : ℚ) * 2 ^ ((wideExponent field mantissa : ℤ) - 16383 - 63) =
      ((2 ^ 52 + mantissa : Nat) : ℚ) * 2 ^ (-1074 + ((field - 1 : Nat) : ℤ)) := by
  have fraction : wideFraction field mantissa = (2 ^ 52 + mantissa) * 2 ^ 11 := by
    rw [wideFraction, if_neg normal]
    omega
  have exponent : (wideExponent field mantissa : ℤ) - 16383 - 63 =
      -1074 + ((field - 1 : Nat) : ℤ) - (11 : Nat) := by
    rw [wideExponent, if_neg normal, if_neg finite]
    omega
  rw [fraction, exponent, scale_up]

theorem value_ofDouble {x : Double} {value : ℚ} (finite : x.value? = some value) :
    (ofDouble x).value = value := by
  obtain ⟨ordinary, rfl⟩ := Double.value?_eq_some_iff.mp finite
  rw [Float80.value, negative_ofDouble, exponent_ofDouble, toNat_fraction_ofDouble]
  split
  · next subnormal => rw [subnormal, wide_subnormal x.mantissa_lt]
  · next normal => rw [wide_normal x.mantissa normal ordinary]

/-- Every double but the zeros gets an integer bit. -/
theorem le_wideFraction {field mantissa : Nat} (some : ¬ (field = 0 ∧ mantissa = 0))
    (bound : mantissa < 2 ^ 52) : 2 ^ 63 ≤ wideFraction field mantissa := by
  rw [wideFraction]
  split
  · next subnormal =>
      have nonzero : mantissa ≠ 0 := fun nothing => some ⟨subnormal, nothing⟩
      exact (normalised_shift nonzero bound).1
  · exact Nat.le_add_right ..

/-- Every finite double but the zeros becomes a normalised number. -/
theorem normalised_ofDouble {x : Double} {value : ℚ} (finite : x.value? = some value)
    (nonzero : value ≠ 0) : (ofDouble x).fraction &&& integerBit = integerBit := by
  obtain ⟨_, rfl⟩ := Double.value?_eq_some_iff.mp finite
  rw [integerBit_set_iff, toNat_fraction_ofDouble]
  apply le_wideFraction _ x.mantissa_lt
  rintro ⟨subnormal, nothing⟩
  apply nonzero
  simp [subnormal, nothing]

section Special

variable {x : Double}

/-- Infinities and NaNs share an exponent. -/
theorem exponent_of_special (special : x.field = 0x7FF) : (ofDouble x).exponent = exponentMask := by
  rw [← UInt16.toNat_inj, exponent_ofDouble, special]
  rfl

theorem toNat_fraction_of_special (special : x.field = 0x7FF) :
    (ofDouble x).fraction.toNat = 2 ^ 63 + x.mantissa * 2 ^ 11 := by
  rw [toNat_fraction_ofDouble, special]
  rfl

theorem below_integerBit_of_special (special : x.field = 0x7FF) :
    (ofDouble x).fraction.toNat % 2 ^ 63 = x.mantissa * 2 ^ 11 := by
  have bound := x.mantissa_lt
  rw [toNat_fraction_of_special special]
  omega

theorem ofDouble_of_infinite (infinite : x.reading = .infinite) :
    (ofDouble x).exponent = exponentMask ∧ (ofDouble x).fraction = integerBit ∧
      (ofDouble x).isInfinite = true := by
  obtain ⟨special, nothing⟩ := x.reading_eq_infinite_iff.mp infinite
  have exponent := exponent_of_special special
  refine ⟨exponent, ?_, ?_⟩
  · rw [← UInt64.toNat_inj, toNat_fraction_of_special special, nothing]
    rfl
  · rw [isInfinite_iff, exponent, below_integerBit_of_special special, nothing]
    decide

theorem ofDouble_of_nan (nan : x.reading = .nan) :
    (ofDouble x).exponent = exponentMask ∧ (ofDouble x).fraction &&& ~~~integerBit ≠ 0 := by
  obtain ⟨special, payload⟩ := x.reading_eq_nan_iff.mp nan
  refine ⟨exponent_of_special special, ?_⟩
  rw [ne_eq, ← UInt64.toNat_inj, toNat_below_integerBit, below_integerBit_of_special special]
  change ¬ x.mantissa * 2 ^ 11 = 0
  omega

theorem reading_of_isInfinite (infinite : (ofDouble x).isInfinite = true) :
    x.reading = .infinite := by
  obtain ⟨exponent, fraction⟩ := (isInfinite_iff _).mp infinite
  have special : x.field = 0x7FF := by
    rw [field_eq_of_wideExponent x.field_lt x.mantissa_lt, ← exponent_ofDouble, exponent]
    rfl
  rw [below_integerBit_of_special special] at fraction
  exact x.reading_eq_infinite_iff.mpr ⟨special, by omega⟩

end Special

/-- What a double becomes in the extended format. -/
structure Widens (x : Double) (wide : Float80) : Prop where
  /-- The sign is kept, also that of a zero. -/
  sign : wide.negative = x.negative
  /-- A finite double keeps its value, and all but the zeros have the integer bit set. -/
  exact_value : ∀ value, x.value? = some value → wide.value = value
  normalised : ∀ value, x.value? = some value → value ≠ 0 →
    wide.fraction &&& integerBit = integerBit
  /-- An infinity stays one, and nothing else becomes one. -/
  infinite : x.reading = .infinite →
    wide.exponent = exponentMask ∧ wide.fraction = integerBit ∧ wide.isInfinite = true
  isInfinite_only : wide.isInfinite = true → x.reading = .infinite
  /-- A NaN has the exponent of infinities, and bits below the integer bit that no infinity has. -/
  nan : x.reading = .nan →
    wide.exponent = exponentMask ∧ wide.fraction &&& ~~~integerBit ≠ 0

/-- Widening a double loses nothing: its value, its sign and its kind are kept, and no two doubles
become the same number. -/
theorem widening_is_exact : (∀ x, Widens x (ofDouble x)) ∧ Function.Injective ofDouble := by
  refine ⟨fun x => ?_, ofDouble_injective⟩
  exact {
    sign := negative_ofDouble x
    exact_value := fun _ => value_ofDouble
    normalised := fun _ => normalised_ofDouble
    infinite := ofDouble_of_infinite
    isInfinite_only := reading_of_isInfinite
    nan := ofDouble_of_nan }

/-- The least double, a power of two far below the normal ones, becomes a normalised number. -/
example : ofDouble ⟨1⟩ = ⟨0x3BCD, integerBit⟩ := by decide

end Float80

end IrMachine
