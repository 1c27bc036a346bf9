import IrMachine.Proofs.Load.Direct

/-!
# Reading a global

A global can be read through a load site that is given the global or its place, by a direct load, or
as a bare address. `LoadKind.readGlobal` is the reading itself: the place is looked up, and what it
holds is read. Each way comes to that reading (`LoadKind.load_global`, `Machine.map_loadGlobal`,
`DirectLoad.Reached.execute_global_eq`), whatever its sites were used for before; so all of them
agree, which is `LoadSite.ways_of_reading_agree`.
-/

namespace IrMachine

/-- What a load of a kind finds at the place of a global. -/
def LoadKind.readGlobal (kind : LoadKind) (machine : Machine) (id : GlobalId) :
    Except Fault Value :=
  (machine.resolve id).bind (kind.readNative machine.memory)

namespace LoadKind

variable {kind : LoadKind} {machine : Machine} {id : GlobalId}

theorem readGlobal_of_placed {location : UInt64}
    (placed : machine.locations.get? id = some location) :
    kind.readGlobal machine id = kind.readNative machine.memory location := by
  simp only [readGlobal, Machine.resolve, placed]
  rfl

theorem readGlobal_of_unplaced (unplaced : machine.locations.get? id = none) :
    kind.readGlobal machine id = .error (.unresolvedGlobal (machine.nameOf id)) := by
  simp only [readGlobal, Machine.resolve, unplaced]
  rfl

/-- All loads but those of aggregates go through the place of a global. -/
theorem load_global (simple : kind ≠ .aggregate) (machine : Machine) (id : GlobalId) :
    kind.load machine (.global id) = (kind.readGlobal machine id, machine) := by
  cases kind with
  | scalar kind => rfl
  | address => rfl
  | aggregate => exact absurd rfl simple

/-- Types that are handed about by reference are loaded as aggregates, and no others are. -/
theorem eq_aggregate_iff {ty : Ty} (loads : ofTy ty = .ok kind) :
    kind = .aggregate ↔ ty.isAggregate = true := by
  cases ty with
  | void => cases loads
  | int bits =>
      cases bits with
      | zero => cases loads
      | succ bits => cases loads; exact ⟨nofun, nofun⟩
  | struct | array => cases loads; exact iff_of_true rfl rfl
  | float | double | float80 | pointer | function => cases loads; exact ⟨nofun, nofun⟩

end LoadKind

/-- The address stored in a global is what a load of an address finds there. -/
theorem Machine.map_loadGlobal (machine : Machine) (id : GlobalId) :
    (machine.loadGlobal id).map (fun pointer => .address (.native pointer)) =
      LoadKind.address.readGlobal machine id := by
  simp only [loadGlobal, LoadKind.readGlobal]
  cases machine.resolve id with
  | error fault => rfl
  | ok location => rfl

/-- Every execution of a direct load finds what is at the place of the global then. -/
theorem DirectLoad.Reached.execute_global_eq {id : GlobalId} {ty : Ty} {load : DirectLoad}
    (reached : Reached id ty load) (machine : Machine) :
    ∃ kind, LoadKind.ofTy ty = .ok kind ∧
      (load.execute machine).1 = kind.readGlobal machine id := by
  cases placed : machine.locations.get? id with
  | some location =>
      obtain ⟨kind, loads, found⟩ := reached.execute_eq placed
      exact ⟨kind, loads, found.trans (LoadKind.readGlobal_of_placed placed).symm⟩
  | none =>
      obtain ⟨same, _, loads⟩ := reached.steady
      refine ⟨load.site.kind, loads, ?_⟩
      simp only [LoadKind.readGlobal_of_unplaced placed, DirectLoad.execute, Machine.resolve, same,
        placed]

namespace LoadSite

/-- A site of any history finds what is at the place of a global. -/
theorem execute_global {kind : LoadKind} (simple : kind ≠ .aggregate)
    (history : List (Machine × Address)) (machine : Machine) (id : GlobalId) :
    ((after { kind } history).execute machine (.global id)).1 = kind.readGlobal machine id := by
  have loaded := (execute_after kind history machine (.global id)).1
  rwa [LoadKind.load_global simple] at loaded

/-- The ways of reading a global agree, on every machine and whatever the sites and the direct load
were used for before. A load through the global is one from its place, or the fault that names a
global without one. The bare address is the one that a load of an address gives, and fails alike. A
direct load gives what a load of the global's type gives, and the place itself for an aggregate. -/
theorem ways_of_reading_agree (machine : Machine) (id : GlobalId) :
    (∀ kind, kind ≠ .aggregate → ∀ history history',
      (∀ location, machine.locations.get? id = some location →
        ((after { kind } history).execute machine (.global id)).1 =
          ((after { kind } history').execute machine (.native location)).1) ∧
      (machine.locations.get? id = none →
        ((after { kind } history).execute machine (.global id)).1 =
          .error (.unresolvedGlobal (machine.nameOf id)))) ∧
    (∀ history,
      (∀ pointer, machine.loadGlobal id = .ok pointer ↔
        ((after { kind := .address } history).execute machine (.global id)).1 =
          .ok (.address (.native pointer))) ∧
      ∀ fault, machine.loadGlobal id = .error fault ↔
        ((after { kind := .address } history).execute machine (.global id)).1 = .error fault) ∧
    ∀ ty load, DirectLoad.Reached id ty load →
      (ty.isAggregate = false → ∃ site, ofTy ty = .ok site ∧ ∀ history,
        (load.execute machine).1 = ((site.after history).execute machine (.global id)).1) ∧
      (ty.isAggregate = true →
        (∀ location, machine.locations.get? id = some location →
          (load.execute machine).1 = .ok (.address (.native location))) ∧
        (machine.locations.get? id = none →
          (load.execute machine).1 = .error (.unresolvedGlobal (machine.nameOf id)))) := by
  refine ⟨?_, ?_, ?_⟩
  · intro kind simple history history'
    rw [execute_global simple]
    refine ⟨?_, LoadKind.readGlobal_of_unplaced⟩
    intro location placed
    rw [(execute_after kind history' machine _).1, LoadKind.load_native]
    exact LoadKind.readGlobal_of_placed placed
  · intro history
    have simple : LoadKind.address ≠ .aggregate := nofun
    rw [execute_global simple, ← machine.map_loadGlobal]
    refine ⟨?_, fun fault => map_eq_error_iff.symm⟩
    intro pointer
    simp [map_eq_ok_iff]
  · intro ty load reached
    obtain ⟨kind, loads, found⟩ := reached.execute_global_eq machine
    rw [found]
    refine ⟨?_, ?_⟩
    · intro scalar
      have simple : kind ≠ .aggregate := by simp [LoadKind.eq_aggregate_iff loads, scalar]
      refine ⟨{ kind }, map_eq_ok_iff.mpr ⟨kind, loads, rfl⟩, ?_⟩
      intro history
      exact (execute_global simple history machine id).symm
    · intro aggregate
      obtain rfl := (LoadKind.eq_aggregate_iff loads).mpr aggregate
      refine ⟨?_, LoadKind.readGlobal_of_unplaced⟩
      intro location placed
      exact LoadKind.readGlobal_of_placed placed

/-- A machine of eight bytes that declares two globals: a struct at the first of them, and a number
without a place. -/
def sampleMachineOfGlobals : Machine where
  config := {}
  memory := { base := 0x100, image := ⟨#[42, 1, 0, 0, 0, 0, 0, 0]⟩, next := 0x100 }
  globals := ⟨#[some (.new (.varDecl false) (.struct [.pointer] false) 0 none),
    some { GlobalEntry.new (.varDecl false) .float80 0 none with named := some "@late" }]⟩
  locations := ⟨[(⟨0⟩, 0x100)]⟩

/-- The same address is found in all ways, the struct is handed out by its place, and the other
global is named by the fault, also where it is loaded directly. -/
theorem sample_agreeing :
    ((after { kind := .address } sampleHistory).execute sampleMachineOfGlobals (.global ⟨0⟩)).1 =
        ((after { kind := .address } []).execute sampleMachineOfGlobals (.native 0x100)).1 ∧
      sampleMachineOfGlobals.loadGlobal ⟨0⟩ = .ok 298 ∧
      ((after { kind := .address } sampleHistory).execute sampleMachineOfGlobals (.global ⟨0⟩)).1 =
        .ok (.address (.native 298)) ∧
      (∃ load, DirectLoad.new sampleMachineOfGlobals.globals ⟨0⟩ = .ok load ∧
        (load.execute sampleMachineOfGlobals).1 = .ok (.address (.native 0x100))) ∧
      (∃ load, DirectLoad.new sampleMachineOfGlobals.globals ⟨1⟩ = .ok load ∧
        ∃ site, ofTy .float80 = .ok site ∧ (load.execute sampleMachineOfGlobals).1 =
          ((site.after sampleHistory).execute sampleMachineOfGlobals (.global ⟨1⟩)).1) ∧
      ((after { kind := .scalar .float80 } sampleHistory).execute sampleMachineOfGlobals
        (.global ⟨1⟩)).1 = .error (.unresolvedGlobal "@late") := by
  obtain ⟨sites, bare, directs⟩ := ways_of_reading_agree sampleMachineOfGlobals ⟨0⟩
  obtain ⟨unplaced, _, directs'⟩ := ways_of_reading_agree sampleMachineOfGlobals ⟨1⟩
  obtain ⟨struct, made⟩ : ∃ load, DirectLoad.new sampleMachineOfGlobals.globals ⟨0⟩ = .ok load :=
    ⟨_, rfl⟩
  obtain ⟨late, made'⟩ : ∃ load, DirectLoad.new sampleMachineOfGlobals.globals ⟨1⟩ = .ok load :=
    ⟨_, rfl⟩
  have stored : sampleMachineOfGlobals.loadGlobal ⟨0⟩ = .ok 298 := rfl
  refine ⟨?_, stored, ((bare sampleHistory).1 298).mp stored, ⟨struct, made, ?_⟩,
    ⟨late, made', ?_⟩, ?_⟩
  · exact (sites .address nofun sampleHistory []).1 0x100 rfl
  · exact ((directs (.struct [.pointer] false) struct (.new rfl rfl made)).2 rfl).1 0x100 rfl
  · obtain ⟨site, sited, agree⟩ := (directs' .float80 late (.new rfl rfl made')).1 rfl
    exact ⟨site, sited, agree sampleHistory⟩
  · exact (unplaced (.scalar .float80) nofun sampleHistory []).2 rfl

end LoadSite

end IrMachine
