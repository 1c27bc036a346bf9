import IrMachine.Proofs.Host.Coherent

/-!
# Finalising modules in every reachable state

Three results about any module of any host, after any history. Finalising accepts exactly the
well-formed modules, except that it abandons one for which a sum of addresses is not a word; a
module that it rejects changes nothing but how much memory counts as handed out; and of a module
that it accepts, every entry is resolved, every alias shares the place of its variable, and every
initializer is found again by whoever loads the variable.
-/

namespace IrMachine

/-- All that a module asked for is there. -/
structure Module.Materialised (unit : Module) (machine : Machine) : Prop where
  /-- Every entry holds the symbol of its slot, and none if it has no slot. -/
  resolved : ∀ id ∈ unit.globals, ∃ entry, machine.globals.get? id = some entry ∧
    entry.isInitialised = true ∧ (entry.slot = none → entry.value? = none) ∧
    ∀ slot, entry.slot = some slot →
      ∃ symbol, unit.symbols[slot - 1]? = some symbol ∧ entry.value? = some symbol
  /-- Every alias is where the variable at the end of its chain is. -/
  aliases : ∀ id ∈ unit.globals, ∀ entry, machine.globals.get? id = some entry →
    entry.kind.isAlias = true →
    Machine.SharesPlace machine.globals (fun _ entry => entry.value?) machine.locations id
  /-- The storage of every variable with an initializer holds its encoding, in which a reference is
  the place of what it refers to. -/
  stored : ∀ id ∈ unit.globals, ∀ entry symbol, machine.globals.get? id = some entry →
    entry.kind.isAlias = false → entry.value? = some symbol →
    ∃ location, machine.locations.get? id = some location ∧
      (∀ target, symbol = .global target →
        machine.locations.get? target = some (machine.placeOf target)) ∧
      machine.memory.read location entry.ty.byteSize =
        .ok (symbol.encoding machine.placeOf entry.ty) ∧
      (entry.ty ≠ .void → entry.ty ≠ .int 0 →
        ∃ load, DirectLoad.new machine.globals id = .ok load) ∧
      -- Whatever a direct load of the variable was used for before, it gives the initializer.
      ∀ load, DirectLoad.Reached id entry.ty load →
        (load.execute machine).1 = .ok (symbol.loaded machine.placeOf location entry.ty)

namespace Module

/-- The widths of the integers that finalising a module writes. -/
def integerWidths (unit : Module) (table : GlobalTable) : List Nat :=
  unit.globals.filterMap fun id => do
    let entry ← table.get? id
    match entry.kind.isAlias, entry.ty, ← unit.initializer? entry with
    | false, .int bits, .integer .. => some bits
    | _, _, _ => none

/-- The bits in the bytes of every integer that is written can be counted in 32-bit words. -/
def Narrow (unit : Module) (table : GlobalTable) : Prop :=
  ∀ width ∈ unit.integerWidths table, width ≤ 2 ^ 32 - 8

instance (unit : Module) (table : GlobalTable) : Decidable (unit.Narrow table) :=
  inferInstanceAs (Decidable (∀ width ∈ unit.integerWidths table, width ≤ 2 ^ 32 - 8))

/-- How finalising decides about a module. -/
structure Decided (unit : Module) (machine : Machine) : Prop where
  accepted_iff : (∃ after, (Machine.finalize unit).on machine = (.ok (), after)) ↔
    unit.WellFormed machine ∧
      machine.memory.SumsFit ((unit.layouts machine.globals).map Prod.snd)
  /-- A well-formed module is never rejected. If it is not accepted, finalising is abandoned. -/
  abandoned : unit.WellFormed machine →
    ¬ machine.memory.SumsFit ((unit.layouts machine.globals).map Prod.snd) →
    ∃ after, (Machine.finalize unit).on machine = (.error .overflow, after)
  /-- Where the image ends low enough for all alignments, being well-formed is all that counts. -/
  low : (∀ request ∈ unit.layouts machine.globals,
      machine.memory.base.toNat + machine.memory.size + max request.2.2 1 < UInt64.size) →
    ((∃ after, (Machine.finalize unit).on machine = (.ok (), after)) ↔ unit.WellFormed machine)
  /-- No integer that is written has a width whose difference from the bits of its bytes would wrap
  around. -/
  exact_excess : ∀ width ∈ unit.integerWidths machine.globals,
    UInt32.ofNat width ≤ UInt32.ofNat (8 * Ty.bytesForBits width)

end Module

namespace Module.Finalised

variable {unit : Module} {before after : Machine}

theorem resolved (finalised : unit.Finalised before after) (owned : unit.Owned before.globals)
    (checked : unit.Checked before) {id : GlobalId} (own : id ∈ unit.globals) :
    ∃ entry, after.globals.get? id = some entry ∧ entry.isInitialised = true ∧
      (entry.slot = none → entry.value? = none) ∧
      ∀ slot, entry.slot = some slot →
        ∃ symbol, unit.symbols[slot - 1]? = some symbol ∧ entry.value? = some symbol := by
  obtain ⟨entry, alive⟩ := Option.isSome_iff_exists.mp (owned.alive id own)
  have settled : unit.settled id entry = entry.resolve (unit.initializer? entry) := if_pos own
  refine ⟨unit.settled id entry, by rw [finalised.entries, alive]; rfl, ?_⟩
  rw [settled]
  refine ⟨rfl, ?_, ?_⟩
  · intro without
    rw [GlobalEntry.resolve_slot] at without
    simp [initializer?, without]
  · intro slot slotted
    rw [GlobalEntry.resolve_slot] at slotted
    have inside := checked.slots id entry ⟨own, alive⟩ slot slotted
    exact ⟨unit.symbols[slot - 1], by simp [inside], by simp [initializer?, slotted, inside]⟩

/-- A variable with an initializer has a place, and is found in it. -/
theorem assigns (finalised : unit.Finalised before after) {id : GlobalId} {entry : GlobalEntry}
    {symbol : Symbol} (own : id ∈ unit.globals) (alive : after.globals.get? id = some entry)
    (isVariable : entry.kind.isAlias = false) (held : entry.value? = some symbol) :
    ∃ location, after.Assigns id entry symbol location := by
  obtain ⟨old, declared, rfl⟩ := declares_of_settled finalised.entries ⟨own, alive⟩
  obtain ⟨location, placed, _⟩ :=
    finalised.places id old declared (by rw [← settled_kind unit id]; exact isVariable)
  exact ⟨location, alive, isVariable, held, placed⟩

theorem materialised (finalised : unit.Finalised before after) (owned : unit.Owned before.globals)
    (checked : unit.Checked before) : unit.Materialised after := by
  refine ⟨fun id own => finalised.resolved owned checked own, ?_, ?_⟩
  · intro id own _ alive isAlias
    obtain ⟨entry, declared, rfl⟩ := declares_of_settled finalised.entries ⟨own, alive⟩
    rw [settled_kind] at isAlias
    exact finalised.aliases id entry declared isAlias
  · intro id own entry symbol alive isVariable held
    obtain ⟨location, assigns⟩ := finalised.assigns own alive isVariable held
    have writable := finalised.writable id own entry symbol location assigns
    have holds := finalised.holds id own entry symbol location assigns
    refine ⟨location, assigns.placed, ?_, holds, DirectLoad.new_ok alive, ?_⟩
    · intro target named
      obtain ⟨place, found⟩ := Option.isSome_iff_exists.mp (writable.references target named).2
      rw [Machine.placeOf, found]
      rfl
    · intro load reached
      obtain ⟨kind, loads, executed⟩ := reached.execute_eq assigns.placed
      rw [executed]
      exact Symbol.readNative_encoding writable.fits writable.sized loads holds

end Module.Finalised

namespace Host

variable {config : Config} {machine : Machine} {unit : Module}

/-- Finalising a module of a host, after any history, accepts it exactly when it is well-formed and
no sum on the way to its places leaves the words. -/
theorem finalize_succeeds_iff_unless_sum_overflows (made : Machine.new config = .ok machine)
    (events : List Event) (member : unit ∈ (run { machine } events).modules)
    (narrow : unit.Narrow (run { machine } events).machine.globals) :
    unit.Decided (run { machine } events).machine := by
  have coherent := coherent_run made events
  generalize run { machine } events = host at member narrow coherent ⊢
  have decided : (∃ after, (Machine.finalize unit).on host.machine = (.ok (), after)) ↔
      unit.Admissible host.machine := by
    rcases Machine.finalize_cases (coherent.owned unit member) coherent.sound with
      ⟨admissible, after, ran, _⟩ | ⟨inadmissible, fault, stop, ran, _⟩
    · exact iff_of_true ⟨after, ran⟩ admissible
    · rw [ran]
      exact iff_of_false nofun inadmissible
  refine ⟨decided.trans ⟨fun admissible => ⟨admissible.toWellFormed, admissible.sums⟩,
    fun ⟨wellFormed, sums⟩ => ⟨wellFormed, sums⟩⟩, ?_, ?_, ?_⟩
  · intro wellFormed overflow
    rcases Machine.finalize_cases (coherent.owned unit member) coherent.sound with
      ⟨admissible, _⟩ | ⟨_, fault, stop, ran, _, _, cause⟩
    · exact absurd admissible.sums overflow
    · rw [cause wellFormed] at ran
      exact ⟨_, ran⟩
  · intro low
    refine decided.trans ⟨fun admissible => admissible.toWellFormed, fun wellFormed => ?_⟩
    refine ⟨wellFormed, wellFormed.places.sumsFit coherent.sound.next_le_end ?_⟩
    intro request listed
    obtain ⟨layout, declared, rfl⟩ := List.mem_map.mp listed
    exact low layout declared
  · intro width written
    exact VarInt.excess_exact (narrow width written)

/-- A pointer to a number and the number itself are accepted, and a variable that is larger than
memory is not. -/
theorem sample_decided :
    Sample.numbers.WellFormed Sample.host.machine ∧
      ¬ Sample.crowd.WellFormed Sample.host.machine := by
  have numbers := finalize_succeeds_iff_unless_sum_overflows Sample.made Sample.events
    Sample.numbers_mem (by decide)
  have crowd := finalize_succeeds_iff_unless_sum_overflows Sample.made Sample.events
    Sample.crowd_mem (by decide)
  constructor
  · exact (numbers.accepted_iff.mp ⟨_, rfl⟩).1
  · intro wellFormed
    obtain ⟨after, ran⟩ := (crowd.low (by decide)).mpr wellFormed
    cases congrArg Prod.fst ran

/-- What is free begins sixteen bytes below the end of the address space. A module that declares one
byte there, at a multiple of sixteen, is well-formed, and finalising it is abandoned. -/
theorem well_formed_module_is_abandoned :
    let config : Config :=
      { memoryBase := 0xfffffffffffffff0, memorySize := 8, stackSize := 8 }
    let host := run { machine := .start config }
      [.newModule "edge", .declare (some 0) (.varDecl false) (.int 8) 16 none]
    Machine.new config = .ok (.start config) ∧ ∃ unit ∈ host.modules,
      unit.WellFormed host.machine ∧ unit.integerWidths host.machine.globals = [] ∧
      (Machine.finalize unit).on host.machine = (.error .overflow, host.machine) := by
  intro config host
  have made : Machine.new config = .ok (.start config) := rfl
  have member : { name := "edge", globals := [⟨0⟩] } ∈ host.modules := List.mem_singleton.mpr rfl
  have owned := (coherent_run made _).owned _ member
  have checked := ((Machine.checkModule_eq_ok_iff owned).mp rfl).1
  exact ⟨made, _, member, ⟨checked, by decide, trivial⟩, rfl, rfl⟩

/-- A rejected module changes nothing, except that memory may count as handed out; for what follows
on handing out storage never fails. -/
theorem rejected_finalize_changes_nothing (made : Machine.new config = .ok machine)
    (events : List Event) (member : unit ∈ (run { machine } events).modules) :
    (∀ fault after,
      (Machine.finalize unit).on (run { machine } events).machine = (.error fault, after) →
      ∃ next, after = { (run { machine } events).machine with
        memory := { (run { machine } events).machine.memory with next } }) ∧
    ∀ pending layouts places reserved,
      (run { machine } events).machine.checkModule unit = .ok (pending, layouts) →
      (Machine.reserve layouts).on (run { machine } events).machine = (.ok places, reserved) →
      ∃ after, (Machine.commit unit pending places).on reserved = (.ok (), after) := by
  have coherent := coherent_run made events
  have owned := coherent.owned unit member
  constructor
  · intro fault after rejected
    rcases Machine.finalize_cases owned coherent.sound with
      ⟨_, _, ran, _⟩ | ⟨_, fault', stop, ran, _⟩
    · rw [ran] at rejected
      cases rejected
    · rw [ran] at rejected
      cases rejected
      exact ⟨stop, rfl⟩
  · intro pending layouts places reserved verdict handed
    obtain ⟨checked, same⟩ := (Machine.checkModule_eq_ok_iff owned).mp verdict
    cases same
    rcases Machine.reserve_cases coherent.sound (unit.layouts _) with
      ⟨_, places', stop, ran, served, below⟩ | ⟨_, fault, stop, ran, _⟩
    · rw [ran] at handed
      cases handed
      obtain ⟨after, committed, _⟩ :=
        Machine.commit_ok ⟨owned, coherent.sound, checked, served, below⟩
      exact ⟨after, committed⟩
    · rw [ran] at handed
      cases handed

/-- The byte was served before the large variable was refused, and that is all that remains. -/
theorem sample_crowd_rejected : ∃ fault next, Sample.host.machine.memory.next < next ∧
    (Machine.finalize Sample.crowd).on Sample.host.machine = (.error fault,
      { Sample.host.machine with memory := { Sample.host.machine.memory with next } }) := by
  have spared := (rejected_finalize_changes_nothing Sample.made Sample.events Sample.crowd_mem).1
  obtain ⟨next, same⟩ := spared _ ((Machine.finalize Sample.crowd).on Sample.host.machine).2 rfl
  have moved := congrArg (fun machine => machine.memory.next) same
  refine ⟨_, next, ?_, Prod.ext rfl same⟩
  rw [← show _ = next from moved]
  decide

/-- Finalising materialises every initializer of the module. -/
theorem finalize_materialises (made : Machine.new config = .ok machine) (events : List Event)
    (member : unit ∈ (run { machine } events).modules) {after : Machine}
    (succeeded : (Machine.finalize unit).on (run { machine } events).machine = (.ok (), after)) :
    unit.Materialised after := by
  have coherent := coherent_run made events
  have owned := coherent.owned unit member
  rcases Machine.finalize_cases owned coherent.sound with
    ⟨admissible, _, ran, finalised⟩ | ⟨_, fault, stop, ran, _⟩
  · rw [ran] at succeeded
    cases succeeded
    exact finalised.materialised owned admissible.toChecked
  · rw [ran] at succeeded
    cases succeeded

theorem sample_materialised :
    Sample.numbers.Materialised ((Machine.finalize Sample.numbers).on Sample.host.machine).2 :=
  finalize_materialises Sample.made Sample.events Sample.numbers_mem rfl

end Host

end IrMachine
