import IrMachine.Proofs.Host.Layout

/-!
# Storage in every reachable state

What `Host.Tidy` comes to, for a host that never places globals by itself: no two pieces of storage
overlap, all of it lies in memory, and a thread that asks for its stack again, however much later,
is given the same one.
-/

namespace IrMachine

namespace Host

variable {config : Config} {machine : Machine} {host : Host}

/-- No event moves a stack. -/
theorem stack?_step (coherent : host.Coherent config) (event : Event) {thread : ThreadId}
    {stack : Stack} (owned : host.machine.stack? thread = some stack) :
    ∃ pointer, (host.step event).machine.stack? thread = some { stack with pointer } := by
  have updated : ∀ id update, ((Machine.updateGlobal id update).on host.machine).2.stack? thread =
      some stack := by
    intro id update
    rcases host.machine.updateGlobal_cases id update with same | ⟨_, _, _, _, changed⟩
    · rw [same]
      exact owned
    · rw [changed]
      exact owned
  cases event with
  | setName id name => exact ⟨stack.pointer, updated id _⟩
  | initialise id symbols => exact ⟨stack.pointer, updated id _⟩
  | allocate size align =>
      refine ⟨stack.pointer, ?_⟩
      change (host.allocate size align).machine.stack? thread = some stack
      obtain ⟨memory, kept⟩ := host.machine.allocate_frame size align
      rw [allocate_machine, kept]
      exact owned
  | write address bytes =>
      refine ⟨stack.pointer, ?_⟩
      change ((Machine.writeBytes address bytes).on host.machine).2.stack? thread = some stack
      rcases host.machine.writeBytes_cases address bytes with same | written
      · rw [same]
        exact owned
      · rw [written]
        exact owned
  | stackFor thread' => exact ⟨stack.pointer, Machine.stack?_stackFor owned thread'⟩
  | setStackPointer thread' pointer =>
      exact (host.machine.setStackPointer_crossing thread' pointer).stack?_kept owned
  | call site depth thread' target args pointer =>
      exact (CallSite.execute_crossing (Machine.invoke_crosses thread' depth) site host.machine
        target args pointer).stack?_kept owned
  | finalize index =>
      refine ⟨stack.pointer, ?_⟩
      change (host.finalize index).machine.stack? thread = some stack
      rw [Host.finalize]
      cases found : host.modules[index]? with
      | none => exact owned
      | some unit =>
          have member : unit ∈ host.modules := List.mem_of_getElem? found
          simp only [Host.after]
          rcases Machine.finalize_cases (coherent.owned unit member) coherent.sound with
            ⟨_, after, ran, finalised⟩ | ⟨_, fault, stop, ran, _⟩
          · rw [ran, finalised.frame]
            exact owned
          · rw [ran]
            exact owned
  | _ => exact ⟨stack.pointer, owned⟩

theorem stack?_run (coherent : host.Coherent config) (events : List Event) {thread : ThreadId}
    {stack : Stack} (owned : host.machine.stack? thread = some stack) :
    ∃ pointer, (host.run events).machine.stack? thread = some { stack with pointer } := by
  induction events generalizing host stack with
  | nil => exact ⟨stack.pointer, owned⟩
  | cons event rest ih =>
      obtain ⟨pointer, kept⟩ := stack?_step coherent event owned
      obtain ⟨pointer', later⟩ := ih (coherent.step event) kept
      exact ⟨pointer', later⟩

theorem tidy_run (made : Machine.new config = .ok machine) {events : List Event}
    (allowed : ∀ event ∈ events, event.isBind = false) : (run { machine } events).Tidy := by
  have start : Coherent config { machine } ∧ Tidy { machine } := by
    refine ⟨coherent_start made, ?_⟩
    obtain ⟨_, _, rfl⟩ := map_eq_ok_iff.mp made
    exact tidy_start config
  have kept := run_invariant (fun host => host.Coherent config ∧ host.Tidy)
    (fun event => event.isBind = false) start
    (fun _ event free ⟨coherent, tidy⟩ => ⟨coherent.step event, tidy.step coherent event free⟩)
    allowed
  exact kept.2

/-- What storage looks like in a host. -/
structure Separated (config : Config) (host : Host) : Prop where
  /-- The record of declarations is true of every global that exists. -/
  recorded : ∀ id entry, host.machine.globals.get? id = some entry →
    host.declared[id.index]? = some entry.declaration
  /-- All storage lies in memory, and no two holders share any. -/
  inside : ∀ holder region, host.region? holder = some region →
    config.memoryBase.toNat ≤ region.start ∧
      region.stop ≤ config.memoryBase.toNat + config.memorySize.toNat
  apart : ∀ holder region, host.region? holder = some region →
    ∀ holder' region', host.region? holder' = some region' → holder ≠ holder' →
      region.Apart region'
  /-- Every stack has the size of the configuration and starts at a multiple of 16. -/
  shaped : ∀ thread stack, host.machine.stack? thread = some stack →
    stack.top.toNat - stack.base.toNat = config.stackSize.toNat ∧
      stack.base.toNat ≤ stack.top.toNat ∧ 16 ∣ stack.base.toNat
  /-- Every variable with a place has at least one byte there, aligned as declared. -/
  aligned : ∀ id entry location, host.declared[id.index]? = some entry →
    entry.kind.isAlias = false → host.machine.locations.get? id = some location →
    host.region? (.global id) = some ⟨location.toNat, max entry.ty.byteSize 1⟩ ∧
      (if entry.alignment = 0 then entry.ty.alignment else entry.alignment) ∣ location.toNat
  /-- Different variables have different places. -/
  distinct : ∀ id entry id' entry' location, host.declared[id.index]? = some entry →
    entry.kind.isAlias = false → host.declared[id'.index]? = some entry' →
    entry'.kind.isAlias = false → host.machine.locations.get? id = some location →
    host.machine.locations.get? id' = some location → id = id'
  /-- No thread has two stacks. -/
  single : (host.machine.threadStacks.map Prod.fst).Nodup
  /-- A stack that was asked for is there to stay: asking again gives it and changes nothing. -/
  again : ∀ thread stack, ((Machine.stackFor thread).on host.machine).1 = .ok stack →
    ∀ later, ∃ pointer,
      (Machine.stackFor thread).on ((host.step (.stackFor thread)).run later).machine =
        (.ok { stack with pointer }, ((host.step (.stackFor thread)).run later).machine)

theorem Tidy.separated (tidy : host.Tidy) (coherent : host.Coherent config) :
    host.Separated config := by
  have stored : ∀ id entry location, host.declared[id.index]? = some entry →
      entry.kind.isAlias = false → host.machine.locations.get? id = some location →
      host.region? (.global id) = some ⟨location.toNat, entry.storageSize⟩ :=
    fun id entry location declared isVariable placed =>
      storage?_eq_some_iff.mpr ⟨entry, location, declared, isVariable, placed, rfl⟩
  refine ⟨coherent.declared, ?_, tidy.apart, ?_, ?_, ?_, tidy.single, ?_⟩
  · intro holder region held
    have bounds := tidy.inside holder region held
    have below := coherent.sound.next_le_end
    rw [coherent.base, coherent.size] at below
    rw [coherent.base] at bounds
    omega
  · intro thread stack owned
    obtain ⟨size, aligned⟩ := tidy.shaped thread stack owned
    rw [coherent.configured] at size
    exact ⟨by omega, by omega, aligned⟩
  · intro id entry location declared isVariable placed
    exact ⟨stored id entry location declared isVariable placed,
      tidy.aligned id entry location declared isVariable placed⟩
  · intro id entry id' entry' location declared isVariable declared' isVariable' placed placed'
    -- Storage is never empty, so two variables in one place would overlap.
    by_contra different
    have apart := tidy.apart (.global id) _ (stored id entry location declared isVariable placed)
      (.global id') _ (stored id' entry' location declared' isVariable' placed')
      fun same => different (Holder.global.inj same)
    simp only [Region.Apart, Region.stop, GlobalEntry.storageSize] at apart
    omega
  · intro thread stack asked later
    have owned : (host.step (.stackFor thread)).machine.stack? thread = some stack :=
      (Machine.grants_of_stackFor (Prod.ext asked rfl)).owned
    obtain ⟨pointer, kept⟩ := stack?_run (coherent.step (.stackFor thread)) later owned
    exact ⟨pointer, Machine.stackFor_of_some kept⟩

/-- Storage never overlaps, whatever the order of allocations, stacks, foreign calls and finalised
modules, as long as the host places no global by itself. -/
theorem storage_never_overlaps (made : Machine.new config = .ok machine) (events : List Event)
    (allowed : ∀ event ∈ events, event.isBind = false) :
    (run { machine } events).Separated config :=
  (tidy_run made allowed).separated (coherent_run made events)

/-- One module is finalised and the other refused. -/
theorem sample_separated :
    (Sample.host.run [.finalize 0, .finalize 1]).Separated Sample.config ∧
      [Holder.allocation 0, .stack 5, .global ⟨0⟩, .global ⟨1⟩, .global ⟨2⟩, .global ⟨3⟩].map
          (Sample.host.run [.finalize 0, .finalize 1]).region? =
        [some ⟨0x100, 3⟩, some ⟨0x110, 16⟩, some ⟨0x120, 8⟩, none, some ⟨0x128, 2⟩, none] := by
  refine ⟨?_, rfl⟩
  rw [Sample.host, ← run_append]
  exact storage_never_overlaps Sample.made _ (by decide)

end Host

end IrMachine
