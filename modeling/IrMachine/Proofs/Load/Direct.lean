import IrMachine.Proofs.Globals
import IrMachine.Proofs.Load.Caching

/-!
# Loads of a global's own value

A direct load only ever hands native addresses to its site, and caches never change what a site
gives. So every execution reads the global's place (`DirectLoad.Reached.execute_eq`). The history of
the load does not matter, nor do the machines that it was executed on before.
-/

namespace IrMachine

/-- Native addresses are legal for every kind of load. The place is read, or handed on for an
aggregate. -/
theorem LoadKind.load_native (kind : LoadKind) (machine : Machine) (location : UInt64) :
    kind.load machine (.native location) =
      (kind.readNative machine.memory location, machine) := by
  cases kind with
  | scalar kind => rfl
  | address => rfl
  | aggregate => rfl

/-- All types but `void` and `i0` can be loaded. -/
theorem LoadKind.ofTy_ok {ty : Ty} (notVoid : ty ≠ .void) (notEmpty : ty ≠ .int 0) :
    ∃ kind, LoadKind.ofTy ty = .ok kind := by
  cases ty with
  | void => exact absurd rfl notVoid
  | int bits =>
      cases bits with
      | zero => exact absurd rfl notEmpty
      | succ bits => exact ⟨_, rfl⟩
  | _ => exact ⟨_, rfl⟩

namespace DirectLoad

/-- A direct load of a global that was declared with a type, after any number of executions on any
machines. -/
inductive Reached (global : GlobalId) (ty : Ty) : DirectLoad → Prop where
  | new {table : GlobalTable} {entry : GlobalEntry} {load : DirectLoad}
      (declared : table.get? global = some entry) (typed : entry.ty = ty)
      (made : DirectLoad.new table global = .ok load) : Reached global ty load
  | again {load : DirectLoad} (machine : Machine) (before : Reached global ty load) :
      Reached global ty (load.execute machine).2.1

theorem new_of_declared {table : GlobalTable} {global : GlobalId} {entry : GlobalEntry}
    (declared : table.get? global = some entry) :
    DirectLoad.new table global =
      (LoadKind.ofTy entry.ty).map fun kind => { global, site := { kind } } := by
  simp only [DirectLoad.new, GlobalTable.entry, declared, LoadSite.ofTy, bind, Except.bind]
  cases LoadKind.ofTy entry.ty with
  | error fault => rfl
  | ok kind => rfl

theorem new_ok {table : GlobalTable} {global : GlobalId} {entry : GlobalEntry}
    (declared : table.get? global = some entry) (notVoid : entry.ty ≠ .void)
    (notEmpty : entry.ty ≠ .int 0) : ∃ load, DirectLoad.new table global = .ok load := by
  obtain ⟨kind, loads⟩ := LoadKind.ofTy_ok notVoid notEmpty
  rw [new_of_declared declared, loads]
  exact ⟨_, rfl⟩

variable {global : GlobalId} {ty : Ty} {load : DirectLoad} {machine : Machine} {location : UInt64}

theorem execute_of_resolve (faithful : load.site.Faithful)
    (placed : machine.resolve load.global = .ok location) :
    (load.execute machine).1 = load.site.kind.readNative machine.memory location ∧
      (load.execute machine).2.1.site.Faithful ∧
      (load.execute machine).2.1.site.kind = load.site.kind := by
  obtain ⟨result, _, kind, stays⟩ := faithful.execute machine (.native location)
  rw [LoadKind.load_native] at result
  rw [execute, placed]
  exact ⟨result, stays, kind⟩

theorem execute_global (load : DirectLoad) (machine : Machine) :
    (load.execute machine).2.1.global = load.global := by
  rw [execute]
  cases machine.resolve load.global <;> rfl

namespace Reached

theorem steady (reached : Reached global ty load) :
    load.global = global ∧ load.site.Faithful ∧ LoadKind.ofTy ty = .ok load.site.kind := by
  induction reached with
  | new declared typed made =>
      rw [new_of_declared declared, typed] at made
      obtain ⟨kind, loaded, rfl⟩ := map_eq_ok_iff.mp made
      exact ⟨rfl, LoadSite.faithful_new kind, loaded⟩
  | @again load machine _ ih =>
      obtain ⟨same, faithful, kind⟩ := ih
      refine ⟨(load.execute_global machine).trans same, ?_⟩
      cases placed : machine.resolve load.global with
      | error fault =>
          have stuck : (load.execute machine).2.1 = load := by
            rw [execute, placed]
          rw [stuck]
          exact ⟨faithful, kind⟩
      | ok location =>
          obtain ⟨_, stays, kind'⟩ := execute_of_resolve faithful placed
          exact ⟨stays, kind'.symm ▸ kind⟩

/-- Every execution of a direct load reads the place that the global has then. -/
theorem execute_eq (reached : Reached global ty load)
    (placed : machine.locations.get? global = some location) :
    ∃ kind, LoadKind.ofTy ty = .ok kind ∧
      (load.execute machine).1 = kind.readNative machine.memory location := by
  obtain ⟨same, faithful, kind⟩ := reached.steady
  have resolved : machine.resolve load.global = .ok location :=
    Machine.resolve_eq_ok_iff.mpr (same.symm ▸ placed)
  exact ⟨load.site.kind, kind, (execute_of_resolve faithful resolved).1⟩

end Reached

end DirectLoad

end IrMachine
