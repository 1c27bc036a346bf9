import IrMachine.Proofs.Finalize.Outcome
import IrMachine.Proofs.Host.Basic

/-!
# What holds of every host

Memory keeps the base and the size that the configuration gave it and never counts more as handed
out than there is; the globals of every module exist and are listed once; and no entry ever becomes
another declaration. `Host.coherent_run` has this for every history, from one lemma for each event.
-/

namespace IrMachine

theorem Module.settled_declaration (unit : Module) (id : GlobalId) (entry : GlobalEntry) :
    (unit.settled id entry).declaration = entry.declaration := by
  rw [settled]
  split <;> rfl

/-- A machine with the same settings, the same extent of memory and the same declarations. -/
structure Machine.Carries (before after : Machine) : Prop where
  config : after.config = before.config
  base : after.memory.base = before.memory.base
  size : after.memory.size = before.memory.size
  sound : after.memory.Sound
  count : after.globals.entries.size = before.globals.entries.size
  declarations : ∀ id, (after.globals.get? id).map GlobalEntry.declaration =
    (before.globals.get? id).map GlobalEntry.declaration

namespace Machine

/-- A write changes the bytes it was given for, or nothing. -/
theorem writeBytes_cases (machine : Machine) (address : UInt64) (bytes : Bytes) :
    ((writeBytes address bytes).on machine).2 = machine ∨
      ((writeBytes address bytes).on machine).2 = machine.stored address bytes := by
  by_cases inside : machine.memory.contains address.toNat bytes.length = true
  · rw [writeBytes_ok inside]
    exact .inr rfl
  · have refused : machine.memory.write address bytes = .error (.memory address bytes.length) :=
      if_neg inside
    refine .inl ?_
    simp only [writeBytes, Run.on_bind, Run.on_get, Run.on_ofExcept, refused]

/-- Updating an entry replaces it, or does nothing. -/
theorem updateGlobal_cases (machine : Machine) (id : GlobalId)
    (update : GlobalEntry → Except Fault GlobalEntry) :
    ((updateGlobal id update).on machine).2 = machine ∨
      ∃ entry next, machine.globals.get? id = some entry ∧ update entry = .ok next ∧
        ((updateGlobal id update).on machine).2 =
          { machine with globals := machine.globals.set id next } := by
  cases found : machine.globals.get? id with
  | none =>
      refine .inl ?_
      simp only [updateGlobal, Run.on_bind, Run.on_get, found, Run.on_pure]
  | some entry =>
      cases updated : update entry with
      | error fault =>
          refine .inl ?_
          simp only [updateGlobal, Run.on_bind, Run.on_get, found, Run.on_ofExcept, updated]
      | ok next =>
          refine .inr ⟨entry, next, rfl, updated, ?_⟩
          simp only [updateGlobal, Run.on_bind, Run.on_get, found, Run.on_ofExcept, updated,
            Run.on_modify]

section Carries

variable {machine : Machine} (sound : machine.memory.Sound)
include sound

theorem carries_refl : machine.Carries machine := ⟨rfl, rfl, rfl, sound, rfl, fun _ => rfl⟩

theorem carries_taken {next : Nat} (later : machine.memory.next ≤ next)
    (room : next ≤ machine.memory.base.toNat + machine.memory.size) :
    machine.Carries (machine.taken next) :=
  ⟨rfl, rfl, rfl, sound.taken later room, rfl, fun _ => rfl⟩

theorem allocate_carries (size align : Nat) :
    machine.Carries ((allocate size align).on machine).2 := by
  rcases allocate_cases sound size align with
    ⟨⟨_, room⟩, address, start, ran⟩ | ⟨_, fault, _, ran⟩
  · rw [ran]
    have later := machine.memory.next_le_nextStart align
    rw [NativeMemory.RoomFor, ← start] at room
    exact carries_taken sound (by omega) room
  · rw [ran]
    exact carries_refl sound

theorem stackFor_carries (thread : ThreadId) :
    machine.Carries ((stackFor thread).on machine).2 := by
  rcases stackFor_cases sound thread with
    ⟨stack, _, ran⟩ | ⟨_, stack, start, top, below, ran⟩ | ⟨_, fault, ran⟩
  · rw [ran]
    exact carries_refl sound
  · rw [ran]
    have free := machine.memory.next_le_nextStart stackAlignment
    have later : machine.memory.next ≤ stack.top.toNat := by omega
    exact ⟨rfl, rfl, rfl, sound.taken later below, rfl, fun _ => rfl⟩
  · rw [ran]
    exact carries_refl sound

theorem writeBytes_carries (address : UInt64) (bytes : Bytes) :
    machine.Carries ((writeBytes address bytes).on machine).2 := by
  rcases writeBytes_cases machine address bytes with same | written
  · rw [same]
    exact carries_refl sound
  · rw [written]
    exact ⟨rfl, rfl, NativeMemory.stored_size .., sound.stored address bytes, rfl, fun _ => rfl⟩

theorem updateGlobal_carries (id : GlobalId) {update : GlobalEntry → Except Fault GlobalEntry}
    (keeps : ∀ entry next, update entry = .ok next → next.declaration = entry.declaration) :
    machine.Carries ((updateGlobal id update).on machine).2 := by
  rcases updateGlobal_cases machine id update with same | ⟨entry, next, found, updated, changed⟩
  · rw [same]
    exact carries_refl sound
  · rw [changed]
    refine ⟨rfl, rfl, rfl, sound, by simp [GlobalTable.set], ?_⟩
    intro query
    rw [GlobalTable.get?_set found]
    by_cases same : query = id
    · subst same
      simp [found, keeps entry next updated]
    · simp [same]

theorem finalize_carries {unit : Module} (owned : unit.Owned machine.globals) :
    machine.Carries ((finalize unit).on machine).2 := by
  rcases finalize_cases owned sound with
    ⟨_, after, ran, finalised⟩ | ⟨_, fault, stop, ran, above, below, _⟩
  · rw [ran]
    have config : after.config = machine.config := (congrArg Machine.config finalised.frame :)
    have base := finalised.base
    have size := finalised.size
    refine ⟨config, base, size,
      ⟨?_, ?_, finalised.room⟩, finalised.count, ?_⟩
    · rw [base, size]
      exact sound.addressable
    · rw [base]
      exact Nat.le_trans sound.base_le_next finalised.next_le
    · intro id
      rw [finalised.entries, Option.map_map]
      congr 1
      funext entry
      exact unit.settled_declaration id entry
  · rw [ran]
    exact carries_taken sound above below

end Carries

end Machine

theorem Machine.Carries.trans {first second third : Machine} (early : first.Carries second)
    (late : second.Carries third) : first.Carries third :=
  ⟨late.config.trans early.config, late.base.trans early.base, late.size.trans early.size,
    late.sound, late.count.trans early.count,
    fun id => (late.declarations id).trans (early.declarations id)⟩

theorem Crossing.carries {thread : ThreadId} {before after : Machine}
    (crossing : Crossing thread before after) (sound : before.memory.Sound) :
    before.Carries after := by
  induction crossing with
  | refl => exact Machine.carries_refl sound
  | objects _ _ ih => exact ih.trans ⟨rfl, rfl, rfl, ih.sound, rfl, fun _ => rfl⟩
  | stack _ ih => exact ih.trans (Machine.stackFor_carries ih.sound thread)
  | pointer _ _ _ ih => exact ih.trans ⟨rfl, rfl, rfl, ih.sound, rfl, fun _ => rfl⟩

namespace GlobalEntry

theorem declaration_of_setName {entry next : GlobalEntry} {name : String}
    (named : entry.setName name = .ok next) : next.declaration = entry.declaration := by
  rw [setName] at named
  split at named
  · cases named
    rfl
  · cases named

theorem declaration_of_initialise {entry next : GlobalEntry} {symbols : List Symbol}
    (resolved : entry.initialise symbols = .ok next) : next.declaration = entry.declaration := by
  obtain ⟨symbol, _, rfl⟩ := map_eq_ok_iff.mp resolved
  rfl

end GlobalEntry

namespace Host

/-- A host whose machine was made with a configuration, and whose records agree with it. -/
structure Coherent (config : Config) (host : Host) : Prop where
  configured : host.machine.config = config
  sound : host.machine.memory.Sound
  base : host.machine.memory.base = config.memoryBase
  size : host.machine.memory.size = config.memorySize.toNat
  owned : ∀ unit ∈ host.modules, unit.Owned host.machine.globals
  count : host.declared.length = host.machine.globals.entries.size
  declared : ∀ id entry, host.machine.globals.get? id = some entry →
    host.declared[id.index]? = some entry.declaration

variable {config : Config} {host : Host}

/-- The machine may change as long as it carries its declarations along. -/
theorem Coherent.carry (coherent : host.Coherent config) {machine : Machine}
    (carries : host.machine.Carries machine) (allocations : List Region) :
    Coherent config { host with machine, allocations } := by
  have still : ∀ id entry, machine.globals.get? id = some entry →
      ∃ before, host.machine.globals.get? id = some before ∧
        before.declaration = entry.declaration := by
    intro id entry alive
    have same := carries.declarations id
    rw [alive] at same
    exact Option.map_eq_some_iff.mp same.symm
  refine ⟨carries.config.trans coherent.configured, carries.sound,
    carries.base.trans coherent.base, carries.size.trans coherent.size, ?_,
    coherent.count.trans carries.count.symm, ?_⟩
  · intro unit member
    refine ⟨(coherent.owned unit member).nodup, ?_⟩
    intro id own
    have same := congrArg Option.isSome (carries.declarations id)
    rw [Option.isSome_map, Option.isSome_map] at same
    exact same.trans ((coherent.owned unit member).alive id own)
  · intro id entry alive
    obtain ⟨before, existed, same⟩ := still id entry alive
    rw [← same]
    exact coherent.declared id before existed

/-- Modules may come, go and learn symbols as long as they list the globals they listed before. -/
theorem Coherent.with_modules (coherent : host.Coherent config) {modules : List Module}
    (known : ∀ unit ∈ modules,
      unit.globals = [] ∨ ∃ old ∈ host.modules, unit.globals = old.globals) :
    Coherent config { host with modules } := by
  refine ⟨coherent.configured, coherent.sound, coherent.base, coherent.size, ?_, coherent.count,
    coherent.declared⟩
  intro unit member
  rcases known unit member with empty | ⟨old, present, same⟩
  · exact ⟨by simp [empty], by simp [empty]⟩
  · obtain ⟨nodup, alive⟩ := coherent.owned old present
    exact ⟨same ▸ nodup, same ▸ alive⟩

theorem mem_modify {α : Type} {items : List α} {index : Nat} {change : α → α} {item : α}
    (member : item ∈ items.modify index change) :
    item ∈ items ∨ ∃ old ∈ items, item = change old := by
  obtain ⟨position, found⟩ := List.mem_iff_getElem?.mp member
  rw [List.getElem?_modify] at found
  obtain ⟨old, present, rfl⟩ := Option.map_eq_some_iff.mp found
  have before : old ∈ items := List.mem_iff_getElem?.mpr ⟨position, present⟩
  split
  · exact .inr ⟨old, before, rfl⟩
  · exact .inl before

/-- A declaration is a new entry, which no module lists yet. -/
theorem Coherent.declare (coherent : host.Coherent config) (unit : Option Nat)
    {entry : GlobalEntry} (plain : entry.declaration = entry) :
    (host.declare unit entry).Coherent config := by
  have looked := host.machine.globals.get?_declare entry
  have fresh := host.machine.globals.get?_declare_fresh entry
  have owned : ∀ old ∈ host.modules, old.Owned (host.machine.globals.declare entry).2 := by
    intro old present
    obtain ⟨nodup, alive⟩ := coherent.owned old present
    refine ⟨nodup, ?_⟩
    intro id own
    rw [looked]
    split
    · rfl
    · exact alive id own
  have added : ∀ old ∈ host.modules,
      (old.addGlobal (host.machine.globals.declare entry).1).Owned
        (host.machine.globals.declare entry).2 := by
    intro old present
    obtain ⟨nodup, alive⟩ := owned old present
    refine ⟨?_, ?_⟩
    · have absent : (host.machine.globals.declare entry).1 ∉ old.globals := by
        intro listed
        have existed := (coherent.owned old present).alive _ listed
        rw [fresh] at existed
        cases existed
      exact List.nodup_append.mpr ⟨nodup, by simp, by
        intro id own id' new same
        rw [List.mem_singleton.mp new] at same
        exact absent (same ▸ own)⟩
    · intro id own
      rcases List.mem_append.mp own with before | new
      · exact alive id before
      · rw [List.mem_singleton.mp new, looked, if_pos rfl]
        rfl
  refine ⟨coherent.configured, coherent.sound, coherent.base, coherent.size, ?_, ?_, ?_⟩
  · intro current member
    cases unit with
    | none => exact owned current member
    | some index =>
        rcases mem_modify member with present | ⟨old, present, rfl⟩
        · exact owned current present
        · exact added old present
  · have before := coherent.count
    simp [Host.declare, Machine.declare, GlobalTable.declare, before]
  · intro id found alive
    change (host.machine.globals.declare entry).2.get? id = some found at alive
    change (host.declared ++ [entry])[id.index]? = some found.declaration
    rw [looked] at alive
    by_cases new : id = (host.machine.globals.declare entry).1
    · rw [if_pos new] at alive
      obtain rfl := Option.some.inj alive
      have position : id.index = host.declared.length := by
        rw [new, coherent.count]
        rfl
      rw [position, plain]
      simp
    · rw [if_neg new] at alive
      have earlier := coherent.declared id found alive
      rw [List.getElem?_append_left (List.getElem?_eq_some_iff.mp earlier).1]
      exact earlier

theorem Coherent.forget (coherent : host.Coherent config) (held : List GlobalId) :
    (host.step (.forget held)).Coherent config := by
  have looked := host.machine.globals.get?_collect (held ++ host.modules.flatMap Module.globals)
  refine ⟨coherent.configured, coherent.sound, coherent.base, coherent.size, ?_, ?_, ?_⟩
  · intro unit member
    obtain ⟨nodup, alive⟩ := coherent.owned unit member
    refine ⟨nodup, ?_⟩
    intro id own
    have kept : id ∈ held ++ host.modules.flatMap Module.globals :=
      List.mem_append_right _ (List.mem_flatMap.mpr ⟨unit, member, own⟩)
    exact (looked id).symm ▸ (if_pos kept).symm ▸ alive id own
  · exact coherent.count.trans (by simp [step, Machine.collect, GlobalTable.collect])
  · intro id entry alive
    rw [show (host.step (.forget held)).machine.globals.get? id = _ from looked id] at alive
    split at alive
    · exact coherent.declared id entry alive
    · cases alive

/-- Every event keeps a host coherent. -/
theorem Coherent.step (coherent : host.Coherent config) (event : Event) :
    (host.step event).Coherent config := by
  have sound := coherent.sound
  cases event with
  | newModule name =>
      apply coherent.with_modules
      intro unit member
      rcases List.mem_append.mp member with old | new
      · exact .inr ⟨unit, old, rfl⟩
      · rw [List.mem_singleton.mp new]
        exact .inl rfl
  | dropModule index =>
      apply coherent.with_modules
      intro unit member
      exact .inr ⟨unit, List.mem_of_mem_eraseIdx member, rfl⟩
  | addSymbol index symbol =>
      apply coherent.with_modules
      intro unit member
      rcases mem_modify member with same | ⟨old, present, rfl⟩
      · exact .inr ⟨unit, same, rfl⟩
      · exact .inr ⟨old, present, rfl⟩
  | declare unit kind ty alignment slot => exact coherent.declare unit rfl
  | setName id name =>
      exact coherent.carry (Machine.updateGlobal_carries sound id
        fun _ _ => GlobalEntry.declaration_of_setName) _
  | initialise id symbols =>
      exact coherent.carry (Machine.updateGlobal_carries sound id
        fun _ _ => GlobalEntry.declaration_of_initialise) _
  | forget held => exact coherent.forget held
  | allocate size align =>
      have carries := Machine.allocate_carries sound size align
      change (host.allocate size align).Coherent config
      rw [Host.allocate]
      rcases ran : (Machine.allocate size align).on host.machine with ⟨fault | address, machine⟩
      · rw [ran] at carries
        exact coherent.carry carries _
      · rw [ran] at carries
        exact coherent.carry carries _
  | write address bytes => exact coherent.carry (Machine.writeBytes_carries sound address bytes) _
  | stackFor thread => exact coherent.carry (Machine.stackFor_carries sound thread) _
  | setStackPointer thread pointer =>
      exact coherent.carry
        ((host.machine.setStackPointer_crossing thread pointer).carries sound) _
  | call site depth thread target args pointer =>
      exact coherent.carry ((CallSite.execute_crossing (Machine.invoke_crosses thread depth) site
        host.machine target args pointer).carries sound) _
  | outside buffers objects =>
      have carries : host.machine.Carries { host.machine with buffers, objects } :=
        ⟨rfl, rfl, rfl, sound, rfl, fun _ => rfl⟩
      exact coherent.carry carries _
  | bind id location =>
      have carries : host.machine.Carries (host.machine.bind id location) :=
        ⟨rfl, rfl, rfl, sound, rfl, fun _ => rfl⟩
      exact coherent.carry carries _
  | finalize index =>
      change (host.finalize index).Coherent config
      rw [Host.finalize]
      cases found : host.modules[index]? with
      | none => exact coherent
      | some unit =>
          have member : unit ∈ host.modules := List.mem_of_getElem? found
          exact coherent.carry (Machine.finalize_carries sound (coherent.owned unit member)) _

theorem coherent_start {machine : Machine} (made : Machine.new config = .ok machine) :
    Coherent config { machine } := by
  obtain ⟨_, valid, rfl⟩ := map_eq_ok_iff.mp made
  have size : (Machine.start config).memory.size = config.memorySize.toNat := Image.size_zeros _
  have addressable : config.memoryBase.toNat + config.memorySize.toNat < UInt64.size := by
    rw [Config.validate] at valid
    split at valid
    · cases valid
    · split at valid
      · cases valid
      · split at valid
        · cases valid
        · omega
  refine ⟨rfl, ⟨?_, ?_, ?_⟩, rfl, size, nofun, rfl, ?_⟩
  · rw [size]
    exact addressable
  · exact Nat.le_refl _
  · exact Nat.le_add_right ..
  · intro id entry alive
    simp [Machine.start, GlobalTable.get?] at alive

theorem Coherent.run (coherent : host.Coherent config) (events : List Event) :
    (host.run events).Coherent config :=
  run_invariant (Coherent config) (fun _ => True) coherent
    (fun _ event _ held => held.step event) fun _ _ => trivial

/-- Every history leaves a coherent host. -/
theorem coherent_run {machine : Machine} (made : Machine.new config = .ok machine)
    (events : List Event) : (Host.run { machine } events).Coherent config :=
  (coherent_start made).run events

end Host

end IrMachine
