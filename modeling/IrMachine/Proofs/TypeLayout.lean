import IrMachine.Proofs.NativeMemory
import IrMachine.Proofs.StoredForms
import Mathlib.Algebra.Order.Floor.Div

/-!
# Layout in exact arithmetic

`Ty.idealSize` is the size that a type would have if sizes had no limit, and `Ty.PartOf` are the
parts that a type is laid out from. The layout that the machine computes checks every step against
the 64-bit range, but no step can leave the range before the whole does: an alignment divides the
range, so rounding up to it stays inside whenever the rounded size does (`Ty.roundUp?_eq_some_iff`).
So a type has a size exactly when its ideal size and those of its parts fit, and then it is the
ideal one.
-/

namespace IrMachine

namespace Ty

mutual

theorem alignment_mem : ∀ ty : Ty, ty.alignment ∈ [1, 2, 4, 8, 16]
  | void => by decide
  | int bits => by
      rw [alignment, intAlignment]
      split
      · decide
      · split
        · decide
        · split <;> decide
  | float => by decide
  | double => by decide
  | float80 => by decide
  | pointer => by decide
  | function .. => by
      rw [alignment]
      decide
  | struct fields packed => by
      rw [alignment]
      split
      · decide
      · exact fieldsAlignment_mem fields
  | array element _ => by
      rw [alignment]
      exact alignment_mem element

theorem fieldsAlignment_mem : ∀ fields : List Ty, fieldsAlignment fields ∈ [1, 2, 4, 8, 16]
  | [] => by decide
  | ty :: rest => by
      rw [fieldsAlignment]
      obtain first | others := max_choice ty.alignment (fieldsAlignment rest)
      · rw [first]
        exact alignment_mem ty
      · rw [others]
        exact fieldsAlignment_mem rest

end

theorem fieldAlignment_mem (packed : Bool) (ty : Ty) :
    fieldAlignment packed ty ∈ [1, 2, 4, 8, 16] := by
  rw [fieldAlignment]
  split
  · decide
  · exact alignment_mem ty

/-- An alignment is not zero. -/
theorem pos_of_mem {align : Nat} (listed : align ∈ [1, 2, 4, 8, 16]) : 0 < align := by
  simp only [List.mem_cons, List.not_mem_nil, or_false] at listed
  omega

/-- An alignment divides the range of sizes. -/
theorem dvd_sizeLimit_of_mem {align : Nat} (listed : align ∈ [1, 2, 4, 8, 16]) :
    align ∣ sizeLimit := by
  have all : ∀ align ∈ [1, 2, 4, 8, 16], align ∣ 2 ^ 64 := by decide
  exact all align listed

theorem alignment_pos (ty : Ty) : 0 < ty.alignment := pos_of_mem ty.alignment_mem

def nextMultiple (offset align : Nat) : Nat := (offset ⌈/⌉ align) * align

mutual

/-- The size of a type in exact arithmetic. -/
def idealSize : Ty → Nat
  | void => 0
  | int bits => (bits + 7) / 8
  | float => 4
  | double => 8
  | float80 => 10
  | pointer | function .. => 8
  | struct fields packed =>
      if packed then idealTotal fields
      else nextMultiple (idealEnd fields 0) ((fields.map alignment).foldr max 1)
  | array element length => length * idealSize element

def idealTotal : List Ty → Nat
  | [] => 0
  | ty :: rest => idealSize ty + idealTotal rest

/-- Where the last of the fields ends, if each is placed at the next multiple of its alignment, the
first one from `offset` on. -/
def idealEnd : List Ty → Nat → Nat
  | [], offset => offset
  | ty :: rest, offset => idealEnd rest (nextMultiple offset ty.alignment + idealSize ty)

end

/-- The parts of a type: the type itself, and the parts of its fields or of its elements. What a
function takes and returns is no part of its type's layout. -/
inductive PartOf : Ty → Ty → Prop where
  | whole (ty : Ty) : PartOf ty ty
  | field {part ty : Ty} {fields : List Ty} (packed : Bool) (member : ty ∈ fields)
      (inner : PartOf part ty) : PartOf part (struct fields packed)
  | element {part ty : Ty} (length : Nat) (inner : PartOf part ty) : PartOf part (array ty length)

/-- The ideal sizes of a type and of all its parts can be expressed. -/
def Fits (ty : Ty) : Prop := ∀ part, PartOf part ty → part.idealSize < sizeLimit

theorem fits_struct_iff {fields : List Ty} {packed : Bool} :
    Fits (struct fields packed) ↔
      (struct fields packed).idealSize < sizeLimit ∧ ∀ ty ∈ fields, Fits ty := by
  constructor
  · intro fits
    exact ⟨fits _ (.whole _), fun ty member part inner => fits part (.field packed member inner)⟩
  · rintro ⟨here, fields⟩ part inner
    cases inner with
    | whole => exact here
    | field _ member inner => exact fields _ member part inner

theorem fits_array_iff {element : Ty} {length : Nat} :
    Fits (array element length) ↔
      (array element length).idealSize < sizeLimit ∧ Fits element := by
  constructor
  · intro fits
    exact ⟨fits _ (.whole _), fun part inner => fits part (.element length inner)⟩
  · rintro ⟨here, element⟩ part inner
    cases inner with
    | whole => exact here
    | element _ inner => exact element part inner

/-- A type without parts of its own. -/
theorem fits_scalar_iff {ty : Ty} (scalar : ty.isAggregate = false) :
    Fits ty ↔ ty.idealSize < sizeLimit := by
  constructor
  · intro fits
    exact fits ty (.whole ty)
  · intro here part inner
    cases inner with
    | whole => exact here
    | field => cases scalar
    | element => cases scalar

section Steps

variable {offset align size : Nat}

theorem roundUp_eq_nextMultiple (positive : 0 < align) :
    roundUp offset align = nextMultiple offset align := by
  rw [roundUp, nextMultiple, Nat.ceilDiv_eq_add_pred_div, Nat.add_sub_assoc positive]

@[simp] theorem nextMultiple_one (offset : Nat) : nextMultiple offset 1 = offset := by
  rw [← roundUp_eq_nextMultiple Nat.one_pos, roundUp, Nat.sub_self, Nat.add_zero, Nat.div_one,
    Nat.mul_one]

theorem le_nextMultiple (positive : 0 < align) : offset ≤ nextMultiple offset align := by
  rw [← roundUp_eq_nextMultiple positive]
  exact le_roundUp offset positive

theorem checked_eq_some_iff {value : Nat} :
    checked value = some size ↔ value < sizeLimit ∧ size = value := by
  rw [checked]
  split
  · next inside => simp [inside, eq_comm]
  · next outside => simp [outside]

/-- Rounding up stays in the range exactly when its result does, since the alignment divides the
range. -/
theorem roundUp?_eq_some_iff (listed : align ∈ [1, 2, 4, 8, 16]) :
    roundUp? offset align = some size ↔
      nextMultiple offset align < sizeLimit ∧ size = nextMultiple offset align := by
  have positive := pos_of_mem listed
  have padding : offset + (align - 1) < sizeLimit ↔ nextMultiple offset align < sizeLimit := by
    rw [← roundUp_eq_nextMultiple positive]
    obtain ⟨count, range⟩ := dvd_sizeLimit_of_mem listed
    constructor
    · intro inside
      refine Nat.lt_of_le_of_lt ?_ inside
      exact Nat.div_mul_le_self ..
    · intro inside
      have above := le_roundUp offset positive
      -- The rounded offset and the range are both multiples, so they differ by a whole alignment.
      obtain ⟨multiple, rounded⟩ := dvd_roundUp offset align
      rw [rounded, range] at inside
      have whole : multiple + 1 ≤ count := Nat.lt_of_mul_lt_mul_left inside
      have room := Nat.mul_le_mul_left align whole
      rw [Nat.mul_add, Nat.mul_one, ← rounded, ← range] at room
      omega
  rw [roundUp?, Option.map_eq_some_iff, ← padding]
  constructor
  · rintro ⟨padded, inside, rfl⟩
    obtain ⟨small, rfl⟩ := checked_eq_some_iff.mp inside
    exact ⟨small, roundUp_eq_nextMultiple positive⟩
  · rintro ⟨small, rfl⟩
    exact ⟨_, checked_eq_some_iff.mpr ⟨small, rfl⟩, roundUp_eq_nextMultiple positive⟩

end Steps

/-- Where the fields of a struct end, whether it is packed or not. -/
def placedEnd (packed : Bool) (fields : List Ty) (offset : Nat) : Nat :=
  if packed then offset + idealTotal fields else idealEnd fields offset

/-- A packed struct places its fields like any other, with an alignment of one. -/
theorem placedEnd_cons (packed : Bool) (ty : Ty) (rest : List Ty) (offset : Nat) :
    placedEnd packed (ty :: rest) offset =
      placedEnd packed rest (nextMultiple offset (fieldAlignment packed ty) + ty.idealSize) := by
  cases packed with
  | true => simp [placedEnd, fieldAlignment, idealTotal, Nat.add_assoc]
  | false => simp [placedEnd, fieldAlignment, idealEnd]

theorem le_placedEnd (packed : Bool) (fields : List Ty) (offset : Nat) :
    offset + idealTotal fields ≤ placedEnd packed fields offset := by
  induction fields generalizing offset with
  | nil => cases packed <;> exact Nat.le_refl _
  | cons ty rest ih =>
      have start : offset ≤ nextMultiple offset (fieldAlignment packed ty) :=
        le_nextMultiple (pos_of_mem (fieldAlignment_mem packed ty))
      have others := ih (nextMultiple offset (fieldAlignment packed ty) + ty.idealSize)
      rw [placedEnd_cons, idealTotal]
      omega

theorem fieldsAlignment_eq (fields : List Ty) :
    fieldsAlignment fields = (fields.map alignment).foldr max 1 := by
  induction fields with
  | nil => rfl
  | cons ty rest ih => rw [fieldsAlignment, ih, List.map_cons, List.foldr_cons]

theorem idealSize_struct (fields : List Ty) (packed : Bool) :
    (struct fields packed).idealSize =
      if packed then placedEnd packed fields 0
      else nextMultiple (placedEnd packed fields 0) (fieldsAlignment fields) := by
  rw [idealSize, fieldsAlignment_eq]
  cases packed with
  | true => exact (Nat.zero_add _).symm
  | false => rfl

/-- A scalar has a size of its own, which always fits. -/
theorem size?_eq_some_iff_of_scalar {ty : Ty} {known : Nat} (scalar : ty.isAggregate = false)
    (given : ty.size? = some known) (ideal : ty.idealSize = known) (small : known < sizeLimit)
    (size : Nat) : ty.size? = some size ↔ ty.Fits ∧ size = ty.idealSize := by
  rw [given, fits_scalar_iff scalar, ideal]
  simp [small, eq_comm]

mutual

/-- A type has a size exactly when it fits, and the size is the ideal one. -/
theorem size?_eq_some_iff : ∀ (ty : Ty) (size : Nat),
    ty.size? = some size ↔ ty.Fits ∧ size = ty.idealSize
  | void => size?_eq_some_iff_of_scalar rfl rfl rfl (by decide)
  | int bits => by
      intro size
      rw [size?, checked_eq_some_iff, bytesForBits_eq, fits_scalar_iff rfl, idealSize]
  | float => size?_eq_some_iff_of_scalar rfl rfl rfl (by decide)
  | double => size?_eq_some_iff_of_scalar rfl rfl rfl (by decide)
  | float80 => size?_eq_some_iff_of_scalar rfl rfl rfl (by decide)
  | pointer => size?_eq_some_iff_of_scalar rfl rfl rfl (by decide)
  | function .. => size?_eq_some_iff_of_scalar rfl rfl rfl (by decide)
  | struct fields packed => by
      intro size
      rw [size?, fits_struct_iff, idealSize_struct, Option.bind_eq_bind, Option.bind_eq_some_iff]
      simp only [fieldsEnd?_eq_some_iff packed fields 0 _ (by decide)]
      cases packed with
      | true =>
          constructor
          · rintro ⟨stop, ⟨fits, small, rfl⟩, same⟩
            exact ⟨⟨small, fits⟩, (Option.some.inj same).symm⟩
          · rintro ⟨⟨small, fits⟩, rfl⟩
            exact ⟨_, ⟨fits, small, rfl⟩, rfl⟩
      | false =>
          have listed := fieldsAlignment_mem fields
          constructor
          · rintro ⟨stop, ⟨fits, _, rfl⟩, rounded⟩
            obtain ⟨small, same⟩ := (roundUp?_eq_some_iff listed).mp rounded
            exact ⟨⟨small, fits⟩, same⟩
          · rintro ⟨⟨small, fits⟩, same⟩
            have inside : placedEnd false fields 0 < sizeLimit :=
              Nat.lt_of_le_of_lt (le_nextMultiple (pos_of_mem listed)) small
            exact ⟨_, ⟨fits, inside, rfl⟩, (roundUp?_eq_some_iff listed).mpr ⟨small, same⟩⟩
  | array element length => by
      intro size
      rw [size?, fits_array_iff, idealSize, Nat.mul_comm length, Option.bind_eq_bind,
        Option.bind_eq_some_iff]
      simp only [size?_eq_some_iff element, checked_eq_some_iff]
      constructor
      · rintro ⟨each, ⟨fits, rfl⟩, small, rfl⟩
        exact ⟨⟨small, fits⟩, rfl⟩
      · rintro ⟨⟨small, fits⟩, rfl⟩
        exact ⟨_, ⟨fits, rfl⟩, small, rfl⟩

/-- The fields of a struct have an end exactly when each of them fits and the end does. -/
theorem fieldsEnd?_eq_some_iff (packed : Bool) : ∀ (fields : List Ty) (offset stop : Nat),
    offset < sizeLimit →
    (fieldsEnd? packed fields offset = some stop ↔
      (∀ ty ∈ fields, ty.Fits) ∧ placedEnd packed fields offset < sizeLimit ∧
        stop = placedEnd packed fields offset)
  | [] => by
      intro offset stop inside
      have same : placedEnd packed [] offset = offset := by cases packed <;> rfl
      rw [fieldsEnd?, same]
      simp [inside, eq_comm]
  | ty :: rest => by
      intro offset stop inside
      have listed := fieldAlignment_mem packed ty
      rw [fieldsEnd?, placedEnd_cons, List.forall_mem_cons]
      simp only [Option.bind_eq_bind, Option.bind_eq_some_iff, roundUp?_eq_some_iff listed,
        size?_eq_some_iff ty, checked_eq_some_iff]
      constructor
      · rintro ⟨start, ⟨_, rfl⟩, size, ⟨fits, rfl⟩, _, ⟨small, rfl⟩, ended⟩
        obtain ⟨others, below, same⟩ := (fieldsEnd?_eq_some_iff packed rest _ stop small).mp ended
        exact ⟨⟨fits, others⟩, below, same⟩
      · rintro ⟨⟨fits, others⟩, below, same⟩
        have later := le_placedEnd packed rest
          (nextMultiple offset (fieldAlignment packed ty) + ty.idealSize)
        have small : nextMultiple offset (fieldAlignment packed ty) + ty.idealSize < sizeLimit := by
          omega
        have ended := (fieldsEnd?_eq_some_iff packed rest _ stop small).mpr ⟨others, below, same⟩
        exact ⟨_, ⟨by omega, rfl⟩, _, ⟨fits, rfl⟩, _, ⟨small, rfl⟩, ended⟩

end

theorem Fits.byteSize_eq {ty : Ty} (fits : ty.Fits) : ty.byteSize = ty.idealSize := by
  rw [byteSize, (size?_eq_some_iff ty _).mpr ⟨fits, rfl⟩, Option.getD_some]

/-- The sizes of fields that fit add up to their ideal total. -/
theorem sum_byteSize_eq {fields : List Ty} (fits : ∀ ty ∈ fields, ty.Fits) :
    (fields.map byteSize).sum = idealTotal fields := by
  induction fields with
  | nil => rfl
  | cons ty rest ih =>
      obtain ⟨first, others⟩ := List.forall_mem_cons.mp fits
      rw [List.map_cons, List.sum_cons, idealTotal, first.byteSize_eq, ih others]

/-- Only structs, arrays and integers of an enormous width can be too large. -/
theorem idealSize_lt_of_scalar {ty : Ty} (scalar : ty.isAggregate = false)
    (width : ∀ bits, ty = int bits → bits < 2 ^ 32) : ty.idealSize < sizeLimit := by
  cases ty with
  | int bits =>
      have small := width bits rfl
      have limit : sizeLimit = 2 ^ 64 := rfl
      rw [idealSize, limit]
      omega
  | struct => cases scalar
  | array => cases scalar
  | function =>
      rw [idealSize]
      decide
  | _ => decide

theorem fits_iff_of_widths {ty : Ty} (widths : ∀ bits, PartOf (int bits) ty → bits < 2 ^ 32) :
    ty.Fits ↔ ∀ part, PartOf part ty → part.isAggregate = true → part.idealSize < sizeLimit := by
  constructor
  · intro fits part inner _
    exact fits part inner
  · intro aggregates part inner
    cases aggregate : part.isAggregate with
    | true => exact aggregates part inner aggregate
    | false =>
        apply idealSize_lt_of_scalar aggregate
        rintro bits rfl
        exact widths bits inner

/-- How the layout of a type compares with exact arithmetic. -/
structure ExactLayout (ty : Ty) : Prop where
  /-- A type has a size exactly when the ideal sizes of the type and of all its parts fit 64 bits,
  and the size is the ideal one. -/
  size_iff : ∀ size, ty.size? = some size ↔
    (∀ part, PartOf part ty → part.idealSize < 2 ^ 64) ∧ size = ty.idealSize
  /-- As long as no integer has `2 ^ 32` bits or more, only structs and arrays need looking at. -/
  aggregates : (∀ bits, PartOf (int bits) ty → bits < 2 ^ 32) → ∀ size, ty.size? = some size ↔
    (∀ part, PartOf part ty → part.isAggregate = true → part.idealSize < 2 ^ 64) ∧
      size = ty.idealSize
  /-- The size for reads is the same, and the largest there is for a type without a size. -/
  reads : ∀ size, ty.size? = some size → ty.byteSize = size
  saturates : ty.size? = none → ty.byteSize = 2 ^ 64 - 1
  aligned : ty.alignment ∈ [1, 2, 4, 8, 16]
  /-- A struct that is not packed ends at a multiple of its alignment, with room for its fields. -/
  padded : ∀ fields size, ty = struct fields false → ty.size? = some size →
    ty.alignment ∣ size ∧ (fields.map byteSize).sum ≤ size

/-- The layout of every type agrees with exact arithmetic. -/
theorem layout_is_exact (ty : Ty) : ty.ExactLayout where
  size_iff := size?_eq_some_iff ty
  aggregates := by
    intro widths size
    rw [size?_eq_some_iff, fits_iff_of_widths widths]
    rfl
  reads := by
    intro size measured
    rw [byteSize, measured, Option.getD_some]
  saturates := by
    intro unmeasured
    rw [byteSize, unmeasured]
    rfl
  aligned := alignment_mem ty
  padded := by
    rintro fields size rfl measured
    obtain ⟨fits, rfl⟩ := (size?_eq_some_iff _ size).mp measured
    obtain ⟨_, each⟩ := fits_struct_iff.mp fits
    have natural : (struct fields false).alignment = fieldsAlignment fields := rfl
    have ideal : (struct fields false).idealSize =
        nextMultiple (placedEnd false fields 0) (fieldsAlignment fields) :=
      idealSize_struct fields false
    rw [natural, ideal, sum_byteSize_eq each]
    constructor
    · exact Nat.dvd_mul_left ..
    · calc
        idealTotal fields ≤ placedEnd false fields 0 := by
          have room := le_placedEnd false fields 0
          omega
        _ ≤ nextMultiple (placedEnd false fields 0) (fieldsAlignment fields) :=
          le_nextMultiple (pos_of_mem (fieldsAlignment_mem fields))

/-- An empty array has no size if its elements are too large, though it would take no room. -/
example : (array (array (int 64) (2 ^ 61)) 0).idealSize = 0 ∧
    (array (array (int 64) (2 ^ 61)) 0).size? = none := ⟨rfl, rfl⟩

end Ty

end IrMachine
