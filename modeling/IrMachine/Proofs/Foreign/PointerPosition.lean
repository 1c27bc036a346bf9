import IrMachine.Address.Arithmetic
import IrMachine.Foreign.Convert

/-!
# Operands in pointer position

An operand that is passed as a pointer denotes a location: an address the one that it has, and an
integer the one with its number (`Value.Denotes`). Foreign code should see the native address of
that location, however the operand came by it. `Value.Strays` lists the operands for which it sees
something else, and what: a boxed number stays a number, an `i1` becomes a truth value, and at
location zero a global or an integer becomes a pointer to zero where the native address is null.

`Value.escapes_as_native_unless_strays` says that the list is complete, and that all forms stand for
the same number on the other side.
-/

namespace IrMachine

namespace Raw

def ofLocation (location : UInt64) : Raw := if location = 0 then .null else .pointer location

theorem toInt64_ofLocation (location : UInt64) (ty : Ty) :
    (ofLocation location).toInt64 ty = .ok location.toInt64 := by
  by_cases zero : location = 0
  · subst zero
    rfl
  · rw [ofLocation, if_neg zero]
    rfl

end Raw

/-- Integers other than an `i1` escape as their reading, if they fit a word. -/
theorem Scalar.escape_of_reading {number : Scalar} {reading : Int64}
    (reads : number.toInt64? = some reading)
    (narrow : ∀ value, number = .varInt value → value.width ≤ 64)
    (counted : ∀ flag, number ≠ .i1 flag) : number.escape = .ok (.int reading) := by
  cases number with
  | i1 flag => exact absurd rfl (counted flag)
  | varInt value =>
      cases reads
      exact if_pos (narrow value rfl)
  | i8 | i16 | i32 | i64 => cases reads; rfl
  | float | double | float80 | function => cases reads

namespace Value

/-- An operand in pointer position and the location that it denotes. -/
inductive Denotes (machine : Machine) : Value → UInt64 → Prop where
  | address {place : Address} {location : UInt64} (placed : place.toNative machine = .ok location) :
      Denotes machine (.address place) location
  /-- An integer of at most 64 bits denotes the location with its number. -/
  | integer {number : Scalar} {reading : Int64} {location : UInt64}
      (reads : number.toInt64? = some reading)
      (narrow : ∀ value, number = .varInt value → value.width ≤ 64)
      (word : reading.toUInt64 = location) : Denotes machine (.scalar number) location

/-- The operands that do not escape as the native address of their location, and the forms that they
have instead. -/
inductive Strays : Value → UInt64 → Raw → Prop where
  | boxed (number : Int64) : Strays (.address (.boxed (.int number))) number.toUInt64 (.int number)
  | flag (value : Bool) :
      Strays (.scalar (.i1 value)) (if value then 1 else 0) (.bool value)
  | global (id : GlobalId) : Strays (.address (.global id)) 0 (.pointer 0)
  | zero {number : Scalar} (reads : number.toInt64? = some 0)
      (counted : ∀ flag, number ≠ .i1 flag) : Strays (.scalar number) 0 (.pointer 0)

variable {machine : Machine} {value : Value} {location : UInt64} {raw : Raw}

/-- In pointer position the reading of an integer is a location. -/
theorem escape_integer {number : Scalar} {reading : Int64} (reads : number.toInt64? = some reading)
    (narrow : ∀ value, number = .varInt value → value.width ≤ 64)
    (counted : ∀ flag, number ≠ .i1 flag) (resolve : GlobalId → Except Fault UInt64) :
    (scalar number).escape resolve .pointer = .ok (.pointer reading.toUInt64) := by
  have escaped := number.escape_of_reading reads narrow counted
  exact congrArg (Except.map (Raw.inPosition .pointer)) escaped

namespace Strays

theorem ne_ofLocation (strays : value.Strays location raw) : raw ≠ .ofLocation location := by
  cases strays with
  | boxed number => rw [Raw.ofLocation]; split <;> nofun
  | flag value => rw [Raw.ofLocation]; split <;> nofun
  | global id => nofun
  | zero => nofun

/-- A stray form still stands for the number of the location. -/
theorem toInt64_eq (strays : value.Strays location raw) (ty : Ty) :
    raw.toInt64 ty = .ok location.toInt64 := by
  cases strays with
  | boxed number => exact congrArg Except.ok (Int64.toInt64_toUInt64 number).symm
  | flag value => cases value <;> rfl
  | global id => rfl
  | zero => rfl

/-- A stray form is the one in which the operand escapes. -/
theorem escape_eq (strays : value.Strays location raw) (denotes : value.Denotes machine location) :
    value.escape machine.resolve .pointer = .ok raw := by
  cases strays with
  | boxed number => rfl
  | flag value => rfl
  | global id =>
      cases denotes with
      | address placed => exact congrArg (Except.map Raw.pointer) placed
  | zero reads counted =>
      cases denotes with
      | integer _ narrow _ => exact escape_integer reads narrow counted machine.resolve

end Strays

namespace Denotes

/-- An operand that denotes a location escapes, as the native address of the location or in a stray
form. -/
theorem escape_cases (denotes : value.Denotes machine location) :
    ∃ raw, value.escape machine.resolve .pointer = .ok raw ∧
      (raw = .ofLocation location ∨ value.Strays location raw) := by
  cases denotes with
  | @address place _ placed =>
      cases place with
      | native => cases placed; exact ⟨_, rfl, .inl rfl⟩
      | global id =>
          refine ⟨.pointer location, congrArg (Except.map Raw.pointer) placed, ?_⟩
          by_cases zero : location = 0
          · subst zero
            exact .inr (.global id)
          · exact .inl (if_neg zero).symm
      | boxed content =>
          cases content with
          | int number => cases placed; exact ⟨_, rfl, .inr (.boxed number)⟩
          | float | bool => cases placed
      | buffer | object => cases placed
  | @integer number reading location reads narrow word =>
      by_cases truth : ∃ flag, number = .i1 flag
      · obtain ⟨flag, rfl⟩ := truth
        cases reads
        refine ⟨.bool flag, rfl, .inr ?_⟩
        have strays := Strays.flag flag
        cases flag <;> exact word ▸ strays
      · have counted := not_exists.mp truth
        subst word
        refine ⟨_, escape_integer reads narrow counted machine.resolve, ?_⟩
        by_cases zero : reading.toUInt64 = 0
        · have none : reading = 0 := by
            rw [← Int64.toInt64_toUInt64 reading, zero]
            rfl
          subst none
          exact .inr (.zero reads counted)
        · exact .inl (if_neg zero).symm

end Denotes

/-- Operands in pointer position. An operand that denotes a location escapes. It escapes as the
native address of that location exactly if it is not one of the strays, and else in the form that
goes with it; either way its form stands for the number of the location. -/
theorem escapes_as_native_unless_strays (denotes : value.Denotes machine location) :
    (address (.native location)).escape machine.resolve .pointer = .ok (.ofLocation location) ∧
    ∃ raw, value.escape machine.resolve .pointer = .ok raw ∧
      (raw = .ofLocation location ↔ ∀ other, ¬ value.Strays location other) ∧
      (∀ other, value.Strays location other → raw = other) ∧
      ∀ ty, raw.toInt64 ty = .ok location.toInt64 := by
  obtain ⟨raw, escapes, form⟩ := denotes.escape_cases
  have settled : ∀ other, value.Strays location other → raw = other := by
    intro other strays
    cases escapes.symm.trans (strays.escape_eq denotes)
    rfl
  refine ⟨rfl, raw, escapes, ⟨?_, ?_⟩, settled, ?_⟩
  · intro native other strays
    exact strays.ne_ofLocation ((settled other strays).symm.trans native)
  · intro kept
    exact form.resolve_right (kept raw)
  · intro ty
    obtain rfl | strays := form
    · exact Raw.toInt64_ofLocation location ty
    · exact strays.toInt64_eq ty

def sampleMachineAtZero : Machine :=
  (Machine.start { memoryBase := 0x100, memorySize := 64, stackSize := 16 }).bind ⟨0⟩ 0

/-- The integer minus one escapes as the native address with all bits set, and the global at zero
as a pointer. -/
theorem sample_escapes :
    (scalar (.i8 (-1))).escape sampleMachineAtZero.resolve .pointer = .ok (.ofLocation (-1)) ∧
      (address (.global ⟨0⟩)).escape sampleMachineAtZero.resolve .pointer = .ok (.pointer 0) := by
  have number : (scalar (.i8 (-1))).Denotes sampleMachineAtZero (-1) := .integer rfl nofun rfl
  have global : (address (.global ⟨0⟩)).Denotes sampleMachineAtZero 0 := .address rfl
  obtain ⟨_, raw, escapes, native, _⟩ := escapes_as_native_unless_strays number
  obtain ⟨_, other, escapes', _, settled, _⟩ := escapes_as_native_unless_strays global
  have kept := native.mpr nofun
  have stray := settled _ (.global ⟨0⟩)
  exact ⟨kept ▸ escapes, stray ▸ escapes'⟩

/-- All of these denote the location that a native address has, and none escapes as that address
does: the boxed number 64, a set `i1`, the integer zero, and the global at zero. -/
theorem strays_differ_from_native :
    ((address (.boxed (.int 64))).Denotes sampleMachineAtZero 64 ∧
      (address (.boxed (.int 64))).escape sampleMachineAtZero.resolve .pointer = .ok (.int 64) ∧
      (address (.native 64)).escape sampleMachineAtZero.resolve .pointer = .ok (.pointer 64)) ∧
    ((scalar (.i1 true)).Denotes sampleMachineAtZero 1 ∧
      (scalar (.i1 true)).escape sampleMachineAtZero.resolve .pointer = .ok (.bool true) ∧
      (address (.native 1)).escape sampleMachineAtZero.resolve .pointer = .ok (.pointer 1)) ∧
    ((scalar (.i64 0)).Denotes sampleMachineAtZero 0 ∧
      (scalar (.i64 0)).escape sampleMachineAtZero.resolve .pointer = .ok (.pointer 0)) ∧
    ((address (.global ⟨0⟩)).Denotes sampleMachineAtZero 0 ∧
      (address (.global ⟨0⟩)).escape sampleMachineAtZero.resolve .pointer = .ok (.pointer 0)) ∧
    (address (.native 0)).escape sampleMachineAtZero.resolve .pointer = .ok .null := by
  exact ⟨⟨.address rfl, rfl, rfl⟩, ⟨.integer rfl nofun rfl, rfl, rfl⟩,
    ⟨.integer rfl nofun rfl, rfl⟩, ⟨.address rfl, rfl⟩, rfl⟩

end Value

end IrMachine
