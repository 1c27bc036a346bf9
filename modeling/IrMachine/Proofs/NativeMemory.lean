import IrMachine.Memory.Native

/-!
# Laws of native memory

Reading back what was written, what a write leaves alone, and what the allocator hands out. All of
it is stated in unbounded arithmetic on addresses; the only fact about 64 bits is that the image
ends inside the address space (`NativeMemory.Sound`), which every configuration that passes its
check provides.
-/

namespace IrMachine

namespace Ty

theorem le_roundUp (value : Nat) {align : Nat} (positive : 0 < align) :
    value ≤ roundUp value align := by
  have split := Nat.div_add_mod (value + (align - 1)) align
  have small := Nat.mod_lt (value + (align - 1)) positive
  rw [roundUp, Nat.mul_comm]
  omega

theorem dvd_roundUp (value align : Nat) : align ∣ roundUp value align :=
  Nat.dvd_mul_left ..

end Ty

namespace Word

theorem sum_of_lt {first second : Nat} (small : first + second < UInt64.size) :
    sum first second = .ok (first + second) :=
  if_pos small

theorem sum_of_le {first second : Nat} (large : UInt64.size ≤ first + second) :
    sum first second = .error .overflow :=
  if_neg (Nat.not_lt.mpr large)

end Word

/-- A run of addresses. -/
structure Region where
  start : Nat
  size : Nat
deriving DecidableEq

namespace Region

def stop (region : Region) : Nat := region.start + region.size

def Apart (first second : Region) : Prop := first.stop ≤ second.start ∨ second.stop ≤ first.start

theorem Apart.mono {start start' size size' less less' : Nat}
    (apart : Apart ⟨start, size⟩ ⟨start', size'⟩) (part : less ≤ size) (part' : less' ≤ size') :
    Apart ⟨start, less⟩ ⟨start', less'⟩ := by
  simp only [Apart, stop] at apart ⊢
  omega

end Region

namespace Image

theorem get!_set! (image : ByteArray) (index : Nat) (byte : UInt8) (query : Nat) :
    (image.set! index byte).get! query =
      if index = query ∧ index < image.size then byte else image.get! query := by
  change (image.data.set! index byte)[query]! =
    if index = query ∧ index < image.size then byte else image.data[query]!
  rw [Array.set!_eq_setIfInBounds, getElem!_def, getElem!_def, Array.getElem?_setIfInBounds]
  by_cases same : index = query
  · subst same
    by_cases inside : index < image.size
    · simp [inside]
    · simp [inside]
  · simp [same]

/-- Bytes outside the overwritten range stay. -/
theorem get!_overwrite_outside (image : ByteArray) (offset query : Nat) (bytes : Bytes)
    (outside : query < offset ∨ offset + bytes.length ≤ query) :
    (overwrite image offset bytes).get! query = image.get! query := by
  induction bytes generalizing image offset with
  | nil => rfl
  | cons byte rest ih =>
      simp only [List.length_cons] at outside
      rw [overwrite, ih _ _ (by omega), get!_set!, if_neg (by omega)]

/-- The overwritten range holds the given bytes. -/
theorem get!_overwrite_inside (image : ByteArray) (offset : Nat) (bytes : Bytes)
    (fits : offset + bytes.length ≤ image.size) {index : Nat} (bound : index < bytes.length) :
    (overwrite image offset bytes).get! (offset + index) = bytes[index] := by
  induction bytes generalizing image offset index with
  | nil => exact absurd bound (Nat.not_lt_zero index)
  | cons byte rest ih =>
      simp only [List.length_cons] at fits bound
      rw [overwrite]
      cases index with
      | zero =>
          rw [get!_overwrite_outside _ _ _ _ (by omega), get!_set!, if_pos (by omega)]
          rfl
      | succ index =>
          rw [show offset + (index + 1) = offset + 1 + index by omega,
            ih _ _ (by rw [ByteArray.size_set!]; omega) (by omega)]
          rfl

theorem slice_congr {image image' : ByteArray} {offset length : Nat}
    (same : ∀ index < length, image.get! (offset + index) = image'.get! (offset + index)) :
    slice image offset length = slice image' offset length := by
  apply List.map_congr_left
  intro index member
  exact same index (List.mem_range.mp member)

theorem slice_overwrite (image : ByteArray) (offset : Nat) (bytes : Bytes)
    (fits : offset + bytes.length ≤ image.size) :
    slice (overwrite image offset bytes) offset bytes.length = bytes := by
  apply List.ext_getElem
  · rw [length_slice]
  · intro index _ bound
    simpa [slice] using get!_overwrite_inside image offset bytes fits bound

theorem slice_overwrite_apart (image : ByteArray) (offset : Nat) (bytes : Bytes)
    {start length : Nat} (apart : start + length ≤ offset ∨ offset + bytes.length ≤ start) :
    slice (overwrite image offset bytes) start length = slice image start length := by
  apply slice_congr
  intro index bound
  exact get!_overwrite_outside image offset _ bytes (by omega)

end Image

namespace NativeMemory

/-- The image ends inside the address space, and what was handed out is a first part of it. -/
structure Sound (memory : NativeMemory) : Prop where
  addressable : memory.base.toNat + memory.size < UInt64.size
  base_le_next : memory.base.toNat ≤ memory.next
  next_le_end : memory.next ≤ memory.base.toNat + memory.size

theorem contains_iff {memory : NativeMemory} {address length : Nat} :
    memory.contains address length = true ↔
      memory.base.toNat ≤ address ∧ address + length ≤ memory.base.toNat + memory.size := by
  simp [contains]

/-- The memory after bytes were stored; callers have checked the bounds. -/
def stored (memory : NativeMemory) (address : UInt64) (bytes : Bytes) : NativeMemory :=
  { memory with
    image := Image.overwrite memory.image (address.toNat - memory.base.toNat) bytes }

@[simp] theorem stored_base (memory : NativeMemory) (address : UInt64) (bytes : Bytes) :
    (memory.stored address bytes).base = memory.base := rfl

@[simp] theorem stored_next (memory : NativeMemory) (address : UInt64) (bytes : Bytes) :
    (memory.stored address bytes).next = memory.next := rfl

@[simp] theorem stored_size (memory : NativeMemory) (address : UInt64) (bytes : Bytes) :
    (memory.stored address bytes).size = memory.size :=
  Image.size_overwrite ..

@[simp] theorem stored_contains (memory : NativeMemory) (address : UInt64) (bytes : Bytes)
    (query length : Nat) :
    (memory.stored address bytes).contains query length = memory.contains query length := by
  rw [contains, contains, stored_base, stored_size]

theorem write_of_contains {memory : NativeMemory} {address : UInt64} {bytes : Bytes}
    (inside : memory.contains address.toNat bytes.length = true) :
    memory.write address bytes = .ok (memory.stored address bytes) := by
  rw [write, if_pos inside]
  rfl

theorem read_stored (memory : NativeMemory) {address : UInt64} {bytes : Bytes}
    (inside : memory.contains address.toNat bytes.length = true) :
    (memory.stored address bytes).read address bytes.length = .ok bytes := by
  obtain ⟨above, below⟩ := contains_iff.mp inside
  have fits : address.toNat - memory.base.toNat + bytes.length ≤ memory.image.size := by
    change address.toNat + bytes.length ≤ memory.base.toNat + memory.image.size at below
    omega
  rw [read, stored_contains, if_pos inside]
  exact congrArg Except.ok (Image.slice_overwrite memory.image _ bytes fits)

/-- A write is invisible to reads of other places. -/
theorem read_stored_apart (memory : NativeMemory) {address query : UInt64} {bytes : Bytes}
    {length : Nat} (above : memory.base.toNat ≤ address.toNat)
    (apart : query.toNat + length ≤ address.toNat ∨
      address.toNat + bytes.length ≤ query.toNat) :
    (memory.stored address bytes).read query length = memory.read query length := by
  rw [read, read, stored_contains]
  by_cases inside : memory.contains query.toNat length = true
  · have queryAbove := (contains_iff.mp inside).1
    rw [if_pos inside, if_pos inside, stored_base]
    exact congrArg Except.ok (Image.slice_overwrite_apart memory.image _ bytes (by omega))
  · rw [if_neg inside, if_neg inside]

/-- The memory with a first part handed out. -/
def taken (memory : NativeMemory) (next : Nat) : NativeMemory := { memory with next }

@[simp] theorem taken_next (memory : NativeMemory) (next : Nat) :
    (memory.taken next).next = next := rfl

/-- Where the next allocation with an alignment would start. -/
def nextStart (memory : NativeMemory) (align : Nat) : Nat := Ty.roundUp memory.next (max align 1)

theorem next_le_nextStart (memory : NativeMemory) (align : Nat) :
    memory.next ≤ memory.nextStart align :=
  Ty.le_roundUp _ (by omega)

theorem nextStart_lt (memory : NativeMemory) (align : Nat) :
    memory.nextStart align < memory.next + max align 1 := by
  have below := Nat.div_mul_le_self (memory.next + (max align 1 - 1)) (max align 1)
  rw [nextStart, Ty.roundUp]
  omega

/-- The lowest free address and the alignment have a word as their sum. -/
def InRange (memory : NativeMemory) (align : Nat) : Prop :=
  memory.next + max align 1 < UInt64.size

instance (memory : NativeMemory) (align : Nat) : Decidable (memory.InRange align) :=
  inferInstanceAs (Decidable (_ < _))

/-- There is room for a number of bytes at the first aligned place. -/
def RoomFor (memory : NativeMemory) (size align : Nat) : Prop :=
  memory.nextStart align + size ≤ memory.base.toNat + memory.size

instance (memory : NativeMemory) (size align : Nat) : Decidable (memory.RoomFor size align) :=
  inferInstanceAs (Decidable (_ ≤ _))

/-- A request can be served: its first sum is a word, and there is room at the first aligned
place. -/
def Serves (memory : NativeMemory) (size align : Nat) : Prop :=
  memory.InRange align ∧ memory.RoomFor size align

instance (memory : NativeMemory) (size align : Nat) : Decidable (memory.Serves size align) :=
  inferInstanceAs (Decidable (_ ∧ _))

variable {memory : NativeMemory} {size align : Nat}

/-- A request whose first sum is a word goes on to the first aligned place. -/
theorem InRange.allocate_eq (inRange : memory.InRange align) (size : Nat) :
    memory.allocate size align =
      if memory.contains (memory.nextStart align) size then
        (Word.sum (memory.nextStart align) size).map fun stop =>
          (UInt64.ofNat (memory.nextStart align), memory.taken stop)
      else .error (.memory (UInt64.ofNat (memory.nextStart align)) size) := by
  have start : (memory.next + max align 1 - 1) / max align 1 * max align 1 =
      memory.nextStart align := by
    rw [Nat.add_sub_assoc (Nat.le_max_right ..), nextStart, Ty.roundUp]
  simp only [allocate, Word.sum_of_lt inRange, bind, Except.bind, start]
  cases Word.sum (memory.nextStart align) size with
  | error fault => rfl
  | ok stop => rfl

theorem allocate_of_overflow (outside : ¬ memory.InRange align) (size : Nat) :
    memory.allocate size align = .error .overflow := by
  simp only [allocate, Word.sum_of_le (Nat.le_of_not_lt outside), bind, Except.bind]

/-- What an allocation does: it is abandoned at its first sum, or it hands out the first aligned
place, or there is no room there. -/
theorem allocate_cases (sound : memory.Sound) (size align : Nat) :
    (¬ memory.InRange align ∧ memory.allocate size align = .error .overflow) ∨
    (memory.Serves size align ∧
      ∃ address : UInt64, address.toNat = memory.nextStart align ∧
        memory.allocate size align = .ok (address, memory.taken (address.toNat + size))) ∨
    (memory.InRange align ∧ ¬ memory.RoomFor size align ∧
      ∃ address : UInt64, address.toNat = memory.nextStart align ∧
        memory.allocate size align = .error (.memory address size)) := by
  by_cases inRange : memory.InRange align
  · have above := sound.base_le_next
    have later := memory.next_le_nextStart align
    have limit := sound.addressable
    have start : (UInt64.ofNat (memory.nextStart align)).toNat = memory.nextStart align := by
      have close := memory.nextStart_lt align
      have sum : memory.next + max align 1 < UInt64.size := inRange
      exact UInt64.toNat_ofNat_of_lt' (by omega)
    have served := inRange.allocate_eq size
    by_cases room : memory.RoomFor size align
    · have inside : memory.contains (memory.nextStart align) size = true :=
        contains_iff.mpr ⟨by omega, room⟩
      have small : memory.nextStart align + size < UInt64.size := Nat.lt_of_le_of_lt room limit
      rw [if_pos inside, Word.sum_of_lt small] at served
      exact .inr (.inl ⟨⟨inRange, room⟩, _, start, by rw [served, start]; rfl⟩)
    · have outside : ¬ memory.contains (memory.nextStart align) size = true :=
        fun inside => room (contains_iff.mp inside).2
      rw [if_neg outside] at served
      exact .inr (.inr ⟨inRange, room, _, start, served⟩)
  · exact .inl ⟨inRange, allocate_of_overflow inRange size⟩

/-- An allocation fails for want of room, or because it is abandoned. -/
theorem allocate_eq_error {fault : Fault} (refused : memory.allocate size align = .error fault) :
    fault = .overflow ∨ ∃ start, fault = .memory start size := by
  by_cases inRange : memory.InRange align
  · rw [inRange.allocate_eq] at refused
    split at refused
    · rw [Word.sum] at refused
      split at refused
      · cases refused
      · cases refused
        exact .inl rfl
    · cases refused
      exact .inr ⟨_, rfl⟩
  · rw [allocate_of_overflow inRange] at refused
    cases refused
    exact .inl rfl

theorem Sound.taken {memory : NativeMemory} (sound : memory.Sound) {next : Nat}
    (later : memory.next ≤ next) (room : next ≤ memory.base.toNat + memory.size) :
    (memory.taken next).Sound :=
  ⟨sound.addressable, Nat.le_trans sound.base_le_next later, room⟩

theorem Sound.stored {memory : NativeMemory} (sound : memory.Sound) (address : UInt64)
    (bytes : Bytes) : (memory.stored address bytes).Sound := by
  refine ⟨?_, sound.base_le_next, ?_⟩
  · simpa using sound.addressable
  · simpa using sound.next_le_end

end NativeMemory

end IrMachine
