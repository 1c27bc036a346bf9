import IrMachine.Foreign.Query
import IrMachine.Proofs.Foreign.Outcome
import IrMachine.Proofs.Number.Resizing
import Mathlib.Data.List.Infix

/-!
# Pointer arithmetic adds up

An address that is moved step by step ends where one move by the sum of the steps takes it, as long
as no running sum leaves the range of a signed word. `Address.Displaced` says where that is. One
step is a displacement (`Address.offsetBy_displaced`), displacements add up (`Displaced.trans`), and
each leads to one place only (`Displaced.unique`); so a whole walk is one displacement
(`Address.walk_displaced`), whatever its steps were.

Calls and queries look at nothing but that sum: `Address.Guarded` says that a reference to a foreign
object is taken for the object exactly if it was moved by zero in all. The main result is
`Address.only_displacement_matters`.
-/

namespace IrMachine

namespace Address

def displacement (steps : List Int64) : Int := (steps.map Int64.toInt).sum

/-- Every running sum of the steps, from a start on, is one of a signed word. -/
def StaysWord (start : Int) (steps : List Int64) : Prop :=
  ∀ done ∈ steps.inits, VarInt.FitsWord (start + displacement done)

instance (start : Int) (steps : List Int64) : Decidable (StaysWord start steps) :=
  inferInstanceAs (Decidable (∀ done ∈ steps.inits, -2 ^ 63 ≤ _ ∧ _ < 2 ^ 63))

def walk (machine : Machine) (address : Address) (steps : List Int64) : Except Fault Address :=
  steps.foldlM (fun place step => place.offsetBy machine step) address

def movable : Address → Bool
  | global _ | boxed (.float _) | boxed (.bool _) => false
  | _ => true

/-- How far into its buffer or object an address points. -/
def offset? : Address → Option Int64
  | buffer _ offset | object _ offset => some offset
  | _ => none

/-- Where a shift takes an address. Native locations wrap around, and a boxed integer becomes the
native location that it denotes; buffers and objects stay and their offset moves. -/
inductive Displaced (shift : Int) : Address → Address → Prop where
  | native {location target : UInt64}
      (sum : (target.toNat : Int) = (location.toNat + shift) % 2 ^ 64) :
      Displaced shift (.native location) (.native target)
  | boxed {value : Int64} {target : UInt64}
      (sum : (target.toNat : Int) = (value.toUInt64.toNat + shift) % 2 ^ 64) :
      Displaced shift (.boxed (.int value)) (.native target)
  | buffer (id : BufferId) {offset target : Int64} (sum : target.toInt = offset.toInt + shift) :
      Displaced shift (.buffer id offset) (.buffer id target)
  | object (id : ObjectId) {offset target : Int64} (sum : target.toInt = offset.toInt + shift) :
      Displaced shift (.object id offset) (.object id target)

@[simp] theorem displacement_nil : displacement [] = 0 := rfl

@[simp] theorem displacement_cons (step : Int64) (rest : List Int64) :
    displacement (step :: rest) = step.toInt + displacement rest := by
  simp [displacement]

theorem StaysWord.total {start : Int} {steps : List Int64} (stays : StaysWord start steps) :
    VarInt.FitsWord (start + displacement steps) :=
  stays steps ((List.mem_inits ..).mpr (List.prefix_refl steps))

/-- After the first step, the running sums of the others go on from it. -/
theorem StaysWord.tail {start : Int} {step : Int64} {rest : List Int64}
    (stays : StaysWord start (step :: rest)) : StaysWord (start + step.toInt) rest := by
  intro done early
  have whole : step :: done ∈ (step :: rest).inits := by
    simpa only [List.mem_inits, List.prefix_cons_inj] using early
  simpa [Int.add_assoc] using stays (step :: done) whole

theorem StaysWord.first {start : Int} {step : Int64} {rest : List Int64}
    (stays : StaysWord start (step :: rest)) : VarInt.FitsWord (start + step.toInt) := by
  simpa using stays.tail [] (by simp)

theorem walk_of_ok {machine : Machine} {address middle : Address} {step : Int64}
    (moved : address.offsetBy machine step = .ok middle) (rest : List Int64) :
    address.walk machine (step :: rest) = middle.walk machine rest := by
  simp only [walk, List.foldlM_cons, moved]
  rfl

theorem walk_of_error {machine : Machine} {address : Address} {step : Int64} {fault : Fault}
    (failed : address.offsetBy machine step = .error fault) (rest : List Int64) :
    address.walk machine (step :: rest) = .error fault := by
  simp only [walk, List.foldlM_cons, failed]
  rfl

theorem toNat_add_step (location : UInt64) (step : Int64) :
    ((location + step.toUInt64).toNat : Int) = (location.toNat + step.toInt) % 2 ^ 64 := by
  have word := VarInt.toNat_toUInt64 step
  rw [UInt64.toNat_add]
  omega

theorem toInt_add_of_fits {offset step : Int64}
    (fits : VarInt.FitsWord (offset.toInt + step.toInt)) :
    (offset + step).toInt = offset.toInt + step.toInt := by
  obtain ⟨low, high⟩ := fits
  rw [Int64.toInt_add]
  apply Int.bmod_eq_of_le <;> omega

/-- One step is a displacement, if it does not take an offset out of range. -/
theorem offsetBy_displaced (machine : Machine) {address : Address} {step : Int64}
    (movable : address.movable = true)
    (range : ∀ offset, address.offset? = some offset →
      VarInt.FitsWord (offset.toInt + step.toInt)) :
    ∃ moved, address.offsetBy machine step = .ok moved ∧ address.Displaced step.toInt moved := by
  cases address with
  | native location => exact ⟨_, rfl, .native (toNat_add_step location step)⟩
  | buffer id offset => exact ⟨_, rfl, .buffer id (toInt_add_of_fits (range offset rfl))⟩
  | object id offset => exact ⟨_, rfl, .object id (toInt_add_of_fits (range offset rfl))⟩
  | boxed value =>
      cases value with
      | int value => exact ⟨_, rfl, .boxed (toNat_add_step value.toUInt64 step)⟩
      | float | bool => cases movable
  | global id => cases movable

/-- An address that cannot be moved fails at any step, always in the same way. -/
theorem offsetBy_of_fixed (machine : Machine) {address : Address}
    (fixed : address.movable = false) :
    ∃ cause, ∀ step,
      address.offsetBy machine step = .error (.operand "pointer arithmetic" cause) := by
  cases address with
  | global id => exact ⟨.unresolved (machine.nameOf id), fun _ => rfl⟩
  | boxed value =>
      cases value with
      | int => cases fixed
      | float value => exact ⟨.notAnAddress (.float value), fun _ => rfl⟩
      | bool value => exact ⟨.notAnAddress (.bool value), fun _ => rfl⟩
  | native | buffer | object => cases fixed

namespace Displaced

variable {first second : Int} {source middle target other : Address}

theorem movable (displaced : source.Displaced first target) : target.movable = true := by
  cases displaced <;> rfl

/-- Where the result has an offset, the source had one, and the shift lies between the two. -/
theorem offset? (displaced : source.Displaced first target) {reached : Int64}
    (found : target.offset? = some reached) :
    ∃ offset, source.offset? = some offset ∧ reached.toInt = offset.toInt + first := by
  cases displaced with
  | native | boxed => cases found
  | buffer id sum => cases found; exact ⟨_, rfl, sum⟩
  | object id sum => cases found; exact ⟨_, rfl, sum⟩

/-- Displacements add up. -/
theorem trans (near : source.Displaced first middle) (far : middle.Displaced second target) :
    source.Displaced (first + second) target := by
  cases near with
  | native sum =>
      cases far with
      | native next => exact .native (by omega)
  | boxed sum =>
      cases far with
      | native next => exact .boxed (by omega)
  | buffer id sum =>
      cases far with
      | buffer _ next => exact .buffer id (by omega)
  | object id sum =>
      cases far with
      | object _ next => exact .object id (by omega)

/-- A shift takes an address to one place only. -/
theorem unique (one : source.Displaced first target) (two : source.Displaced first other) :
    target = other := by
  cases one with
  | native sum =>
      cases two with
      | native sum' => exact congrArg Address.native (UInt64.toNat_inj.mp (by omega))
  | boxed sum =>
      cases two with
      | boxed sum' => exact congrArg Address.native (UInt64.toNat_inj.mp (by omega))
  | buffer id sum =>
      cases two with
      | buffer _ sum' => exact congrArg (Address.buffer id) (Int64.toInt_inj.mp (by omega))
  | object id sum =>
      cases two with
      | object _ sum' => exact congrArg (Address.object id) (Int64.toInt_inj.mp (by omega))

end Displaced

/-- A walk of one step or more is a displacement by the sum of its steps. -/
theorem walk_displaced (machine : Machine) {address : Address} {steps : List Int64}
    (movable : address.movable = true) (any : steps ≠ [])
    (offsets : ∀ offset, address.offset? = some offset → StaysWord offset.toInt steps) :
    ∃ moved, address.walk machine steps = .ok moved ∧
      address.Displaced (displacement steps) moved := by
  induction steps generalizing address with
  | nil => exact absurd rfl any
  | cons step rest ih =>
      obtain ⟨middle, stepped, near⟩ := offsetBy_displaced machine movable
        fun offset found => (offsets offset found).first
      rw [walk_of_ok stepped, displacement_cons]
      by_cases last : rest = []
      · -- A boxed integer is native from the first step on, so no step is one too few for it.
        subst last
        exact ⟨middle, rfl, by simpa using near⟩
      · have onward : ∀ offset, middle.offset? = some offset → StaysWord offset.toInt rest := by
          intro reached found
          obtain ⟨offset, before, sum⟩ := near.offset? found
          rw [sum]
          exact (offsets offset before).tail
        obtain ⟨moved, walked, far⟩ := ih near.movable last onward
        exact ⟨moved, walked, near.trans far⟩

/-- A walk stays in its object, and leads as far into it as the steps add up to. -/
theorem walk_object (machine : Machine) (id : ObjectId) (start : Int64) (steps : List Int64) :
    ∃ offset, (object id start).walk machine steps = .ok (.object id offset) ∧
      (StaysWord start.toInt steps → offset.toInt = start.toInt + displacement steps) := by
  induction steps generalizing start with
  | nil => exact ⟨start, rfl, by simp⟩
  | cons step rest ih =>
      obtain ⟨offset, walked, sum⟩ := ih (start + step)
      refine ⟨offset, (walk_of_ok rfl rest).trans walked, ?_⟩
      intro stays
      rw [toInt_add_of_fits stays.first] at sum
      rw [sum stays.tail, displacement_cons, Int.add_assoc]

/-- What calls and queries make of a reference that was moved away from an object by a shift. -/
structure Guarded (id : ObjectId) (shift : Int) (reference : Address) : Prop where
  /-- The target of a call is the object exactly if the reference is where it was. -/
  callee : CallSite.callee (.address reference) = .ok id ↔ shift = 0
  /-- A query has the object's answer exactly if the reference is where it was. -/
  answer : ∀ (query : ForeignQuery) objects,
    query.execute objects (.address reference) = .ok (query.ask (objects.get id)) ↔ shift = 0
  call : shift = 0 → ∀ (site : CallSite) invoke thread machine args pointer,
    site.execute invoke thread machine (.address reference) args pointer =
      site.execute invoke thread machine (.address (.object id 0)) args pointer
  /-- Otherwise calls and queries fail, and a call has done nothing by then. -/
  refused : shift ≠ 0 → ∃ offset : Int64, offset.toInt = shift ∧
    (∀ (site : CallSite) invoke thread machine args pointer,
      site.execute invoke thread machine (.address reference) args pointer =
        { result := .error (.operand "execute" (.displaced offset)), machine, asked := [] }) ∧
    ∀ (query : ForeignQuery) objects, query.execute objects (.address reference) =
      .error (.operand query.name (.displaced offset))

theorem guarded_object (id : ObjectId) {offset : Int64} {shift : Int}
    (away : offset.toInt = shift) : (object id offset).Guarded id shift := by
  by_cases unmoved : offset = 0
  · subst unmoved
    have none : shift = 0 := away.symm
    refine ⟨iff_of_true rfl none, fun query objects => iff_of_true rfl none, ?_, ?_⟩
    · intro _ site invoke thread machine args pointer
      rfl
    · intro moved
      exact absurd none moved
  · have some : shift ≠ 0 := by
      intro zero
      exact unmoved (Int64.toInt_inj.mp (away.trans zero))
    have stopped (operation : String) : (object id offset).unmovedObject operation =
        .error (.operand operation (.displaced offset)) := if_neg unmoved
    have uncalled : CallSite.callee (.address (.object id offset)) =
        .error (.operand "execute" (.displaced offset)) := by
      simp only [CallSite.callee, stopped]
      rfl
    have unanswered (query : ForeignQuery) (objects : ObjectTable) :
        query.execute objects (.address (.object id offset)) =
          .error (.operand query.name (.displaced offset)) := by
      simp only [ForeignQuery.execute, stopped]
      rfl
    refine ⟨iff_of_false ?_ some, fun query objects => iff_of_false ?_ some, ?_, ?_⟩
    · simp [uncalled]
    · simp [unanswered]
    · intro zero
      exact absurd zero some
    · intro _
      refine ⟨offset, away, ?_, unanswered⟩
      intro site invoke thread machine args pointer
      apply CallSite.execute_of_refused
      exact CallSite.prepare_of_refused (CallSite.arguments_of_callee uncalled)

/-- Pointer arithmetic is an action of the integers, and only the net displacement matters. Steps
whose running sums stay in range, also when they are added to the offset of the address, take an
address that can be moved where one step by their sum takes it; one that cannot be moved fails at
the first of them. A reference to an object that is moved in this way is taken for the object by
calls and queries exactly if the steps add up to zero. -/
theorem only_displacement_matters (machine : Machine) (address : Address) (steps : List Int64)
    (any : steps ≠ []) (sums : StaysWord 0 steps)
    (offsets : ∀ offset, address.offset? = some offset → StaysWord offset.toInt steps) :
    ∃ total : Int64, total.toInt = displacement steps ∧
      (address.movable = true → ∃ moved, address.walk machine steps = .ok moved ∧
        address.offsetBy machine total = .ok moved ∧
        address.Displaced (displacement steps) moved) ∧
      (address.movable = false → ∃ cause,
        (∀ step, address.offsetBy machine step = .error (.operand "pointer arithmetic" cause)) ∧
        address.walk machine steps = .error (.operand "pointer arithmetic" cause)) ∧
      ∀ id, address = .object id 0 → ∃ moved, address.walk machine steps = .ok moved ∧
        moved.Guarded id (displacement steps) := by
  have fits := sums.total
  rw [Int.zero_add] at fits
  have total : (Int64.ofInt (displacement steps)).toInt = displacement steps :=
    Int64.toInt_ofInt_of_le fits.1 fits.2
  refine ⟨Int64.ofInt (displacement steps), total, ?_, ?_, ?_⟩
  · intro movable
    obtain ⟨moved, walked, displaced⟩ := walk_displaced machine movable any offsets
    have range : ∀ offset, address.offset? = some offset →
        VarInt.FitsWord (offset.toInt + (Int64.ofInt (displacement steps)).toInt) := by
      intro offset found
      rw [total]
      exact (offsets offset found).total
    obtain ⟨other, stepped, displaced'⟩ := offsetBy_displaced machine movable range
    rw [total] at displaced'
    obtain rfl := displaced.unique displaced'
    exact ⟨moved, walked, stepped, displaced⟩
  · intro fixed
    obtain ⟨cause, fails⟩ := offsetBy_of_fixed machine fixed
    obtain ⟨first, rest, rfl⟩ := List.exists_cons_of_ne_nil any
    exact ⟨cause, fails, walk_of_error (fails first) rest⟩
  · rintro id rfl
    obtain ⟨offset, walked, away⟩ := walk_object machine id 0 steps
    exact ⟨_, walked, guarded_object id (by simpa using away sums)⟩

def sampleMachineOfSteps : Machine :=
  .start { memoryBase := 0x100, memorySize := 64, stackSize := 16 }

/-- Steps that add up to five take the boxed integer minus four past the end of the address space
to location one. A reference that goes back and forth is the object again, and one that does not
come back is no target of a call. -/
theorem sample_displaced :
    (boxed (.int (-4))).walk sampleMachineOfSteps [8, -24, 21] = .ok (.native 1) ∧
      (boxed (.int (-4))).offsetBy sampleMachineOfSteps 5 = .ok (.native 1) ∧
      (boxed (.int (-4))).Displaced 5 (.native 1) ∧
      (object ⟨0⟩ 0).walk sampleMachineOfSteps [8, -24, 16] = .ok (.object ⟨0⟩ 0) ∧
      (object ⟨0⟩ 0).Guarded ⟨0⟩ 0 ∧
      (object ⟨0⟩ 0).walk sampleMachineOfSteps [8, -24, 21] = .ok (.object ⟨0⟩ 5) ∧
      (object ⟨0⟩ 5).Guarded ⟨0⟩ 5 := by
  obtain ⟨total, sum, lands, _⟩ := only_displacement_matters sampleMachineOfSteps
    (boxed (.int (-4))) [8, -24, 21] (by decide) (by decide) nofun
  obtain ⟨_, _, _, _, back⟩ := only_displacement_matters sampleMachineOfSteps (object ⟨0⟩ 0)
    [8, -24, 16] (by decide) (by decide) (by rintro offset ⟨⟩; decide)
  obtain ⟨_, _, _, _, away⟩ := only_displacement_matters sampleMachineOfSteps (object ⟨0⟩ 0)
    [8, -24, 21] (by decide) (by decide) (by rintro offset ⟨⟩; decide)
  obtain rfl : total = 5 := Int64.toInt_inj.mp sum
  obtain ⟨_, ⟨⟩, stepped, displaced⟩ := lands rfl
  obtain ⟨_, ⟨⟩, same⟩ := back ⟨0⟩ rfl
  obtain ⟨_, ⟨⟩, moved⟩ := away ⟨0⟩ rfl
  exact ⟨rfl, stepped, displaced, rfl, same, rfl, moved⟩

end Address

end IrMachine
