import IrMachine.Foreign.Read
import IrMachine.Proofs.Computation
import IrMachine.Proofs.StoredForms

/-!
# Foreign answers as values

What a typed read of a foreign object gives. An answer at an integer type is the number that it
stands for, cut to the width of the type (`Raw.toInteger_eq`); an answer at a function or pointer
type is a handle or an address.
-/

namespace IrMachine

namespace Raw

theorem and_one_eq_odd (value : Int64) :
    (value.toUInt64 &&& 1 != 0) = (value.toInt % 2 == 1) := by
  have word := VarInt.toNat_toUInt64 value
  have low : (value.toUInt64 &&& 1).toNat = value.toUInt64.toNat % 2 := by
    rw [UInt64.toNat_and]
    exact Nat.and_one_is_mod _
  rw [Bool.eq_iff_iff, bne_iff_ne, beq_iff_eq, ne_eq, ← UInt64.toNat_inj, low]
  change ¬ value.toUInt64.toNat % 2 = 0 ↔ value.toInt % 2 = 1
  omega

/-- An answer at an integer type is its number, as a register of that width holds it. -/
theorem toInteger_eq (bits : Nat) (raw : Raw) :
    raw.toInteger bits = (raw.toInt64 (.int bits)).map (Scalar.ofInt64 bits) := by
  rw [toInteger]
  congr 1
  funext value
  split
  · rw [and_one_eq_odd]
    rfl
  · rfl
  · rfl
  · rfl
  · rfl
  · -- No other width is a standard one.
    have other : IntWidth.ofBits? bits = none := by rw [IntWidth.ofBits?] <;> assumption
    rw [Scalar.ofInt64, other]

/-- An answer at a function type is a handle, unless the answer is an object. -/
theorem toFunction_eq_ok {ty : Ty} {raw : Raw} {value : Value}
    (accepted : raw.toFunction ty = .ok value) :
    (∃ pointer, value = .scalar (.function pointer)) ∨
      ∃ id, raw = .object id ∧ value = .address (.object id 0) := by
  cases raw with
  | null => cases accepted; exact .inl ⟨0, rfl⟩
  | pointer location => cases accepted; exact .inl ⟨location, rfl⟩
  | int number => cases accepted; exact .inl ⟨number.toUInt64, rfl⟩
  | object id => cases accepted; exact .inr ⟨id, rfl, rfl⟩
  | bool value => cases accepted
  | float value => cases accepted
  | string value => cases accepted

end Raw

namespace ForeignRead

variable {reader : ForeignRead} {objects : ObjectTable} {id : ObjectId} {offset : Int64}

theorem execute_of_error {fault : ForeignFault}
    (refused : (objects.get id).read offset reader.byteSize = .error fault) :
    (reader.execute objects id offset).1 = .error (.foreign fault) := by
  rw [execute, refused]

theorem execute_of_ok {raw : Raw}
    (answered : (objects.get id).read offset reader.byteSize = .ok raw) :
    (reader.execute objects id offset).1 =
      (raw.accept objects reader.target).1.mapError .foreign := by
  rw [execute, answered]

/-- A read succeeds exactly when the object answers and the answer is one of the type. -/
theorem execute_eq_ok_iff {value : Value} :
    (reader.execute objects id offset).1 = .ok value ↔
      ∃ raw, (objects.get id).read offset reader.byteSize = .ok raw ∧
        (raw.accept objects reader.target).1 = .ok value := by
  cases answer : (objects.get id).read offset reader.byteSize with
  | error fault => simp [execute_of_error answer]
  | ok raw => simp [execute_of_ok answer, mapError_eq_ok_iff]

/-- Every fault of a read is one of the foreign boundary. -/
theorem execute_eq_error {fault : Fault}
    (failed : (reader.execute objects id offset).1 = .error fault) :
    ∃ inner, fault = .foreign inner := by
  cases answer : (objects.get id).read offset reader.byteSize with
  | error inner =>
      rw [execute_of_error answer] at failed
      cases failed
      exact ⟨inner, rfl⟩
  | ok raw =>
      rw [execute_of_ok answer] at failed
      cases accepted : (raw.accept objects reader.target).1 with
      | error inner =>
          rw [accepted] at failed
          cases failed
          exact ⟨inner, rfl⟩
      | ok value =>
          rw [accepted] at failed
          cases failed

end ForeignRead

end IrMachine
