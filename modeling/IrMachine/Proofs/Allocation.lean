import IrMachine.Proofs.Globals
import IrMachine.Proofs.NativeMemory

/-!
# Handing out memory and making stacks

Allocating moves the end of what was handed out and touches nothing else, which `Machine.taken`
names. A thread that asks for its stack gets the one it has; only when it has none is one made, out
of what is still free.
-/

namespace IrMachine

namespace Machine

/-- The machine with a first part of its memory handed out. -/
def taken (machine : Machine) (next : Nat) : Machine :=
  { machine with memory := machine.memory.taken next }

@[simp] theorem taken_memory (machine : Machine) (next : Nat) :
    (machine.taken next).memory = machine.memory.taken next := rfl

theorem allocate_on (machine : Machine) (size align : Nat) :
    (allocate size align).on machine =
      match machine.memory.allocate size align with
      | .ok (address, memory) => (.ok address, { machine with memory })
      | .error fault => (.error fault, machine) := by
  simp only [allocate, Run.on_bind, Run.on_get, Run.on_ofExcept]
  cases machine.memory.allocate size align with
  | error fault => rfl
  | ok answer => rfl

/-- A request is served, or it fails and nothing has changed. -/
theorem allocate_cases {machine : Machine} (sound : machine.memory.Sound) (size align : Nat) :
    (machine.memory.Serves size align ∧
      ∃ address : UInt64, address.toNat = machine.memory.nextStart align ∧
        (allocate size align).on machine =
          (.ok address, machine.taken (address.toNat + size))) ∨
    (¬ machine.memory.Serves size align ∧
      ∃ fault, (machine.memory.RoomFor size align → fault = .overflow) ∧
        (allocate size align).on machine = (.error fault, machine)) := by
  rw [allocate_on]
  rcases NativeMemory.allocate_cases sound size align with
    ⟨outside, answer⟩ | ⟨serves, address, start, answer⟩ | ⟨_, full, address, _, answer⟩
  · rw [answer]
    exact .inr ⟨fun serves => outside serves.1, _, fun _ => rfl, rfl⟩
  · rw [answer]
    exact .inl ⟨serves, address, start, rfl⟩
  · rw [answer]
    exact .inr ⟨fun serves => full serves.2, _, fun room => absurd room full, rfl⟩

theorem allocate_frame (machine : Machine) (size align : Nat) :
    ∃ memory, ((allocate size align).on machine).2 = { machine with memory } := by
  rw [allocate_on]
  cases machine.memory.allocate size align with
  | error fault => exact ⟨machine.memory, rfl⟩
  | ok answer => exact ⟨answer.2, rfl⟩

/-- A thread has a stack, or it is given one out of what is free. -/
inductive Grants (machine : Machine) (thread : ThreadId) : Stack → Machine → Prop where
  | present {stack : Stack} (owned : machine.stack? thread = some stack) :
      Grants machine thread stack machine
  | made {stack : Stack} {memory : NativeMemory} (absent : machine.stack? thread = none)
      (handed : machine.memory.allocate machine.config.stackSize.toNat stackAlignment =
        .ok (stack.base, memory))
      (top : stack.top = stack.base + machine.config.stackSize)
      (atTop : stack.pointer = stack.top) :
      Grants machine thread stack ({ machine with memory }.setStack thread stack)

namespace Grants

variable {machine ready : Machine} {thread : ThreadId} {stack : Stack}

theorem owned (granted : machine.Grants thread stack ready) :
    ready.stack? thread = some stack := by
  cases granted with
  | present owned => exact owned
  | made => exact (stack?_setStack ..).trans (if_pos rfl)

theorem stack?_other (granted : machine.Grants thread stack ready) {other : ThreadId}
    (different : other ≠ thread) : ready.stack? other = machine.stack? other := by
  cases granted with
  | present => rfl
  | made => exact (stack?_setStack ..).trans (if_neg different)

/-- Every stack that was there stays as it is, the thread's own one included. -/
theorem keeps (granted : machine.Grants thread stack ready) {owner : ThreadId} {kept : Stack}
    (before : machine.stack? owner = some kept) : ready.stack? owner = some kept := by
  by_cases own : owner = thread
  · subst own
    cases granted with
    | present => exact before
    | made absent =>
        rw [absent] at before
        cases before
  · rw [granted.stack?_other own]
    exact before

theorem frame (granted : machine.Grants thread stack ready) :
    ∃ memory threadStacks, ready = { machine with memory, threadStacks } := by
  cases granted with
  | present => exact ⟨machine.memory, machine.threadStacks, rfl⟩
  | made => exact ⟨_, _, rfl⟩

end Grants

theorem stackFor_of_some {machine : Machine} {thread : ThreadId} {stack : Stack}
    (owned : machine.stack? thread = some stack) :
    (stackFor thread).on machine = (.ok stack, machine) := by
  simp only [stackFor, Run.on_bind, Run.on_get, owned, Run.on_pure]

/-- All that asking for a thread's stack can do: it is granted, or the thread has none and the
allocator refuses one. -/
theorem stackFor_granted_or_refused (machine : Machine) (thread : ThreadId) :
    (∃ stack ready, machine.Grants thread stack ready ∧
      (stackFor thread).on machine = (.ok stack, ready)) ∨
    ∃ fault, machine.stack? thread = none ∧
      machine.memory.allocate machine.config.stackSize.toNat stackAlignment = .error fault ∧
      (stackFor thread).on machine = (.error fault, machine) := by
  cases found : machine.stack? thread with
  | some stack => exact .inl ⟨stack, machine, .present found, stackFor_of_some found⟩
  | none =>
      rcases handed : machine.memory.allocate machine.config.stackSize.toNat stackAlignment with
        fault | ⟨base, memory⟩
      · refine .inr ⟨fault, rfl, rfl, ?_⟩
        simp only [stackFor, Run.on_bind, Run.on_get, found, allocate_on, handed]
      · let stack : Stack :=
          ⟨base, base + machine.config.stackSize, base + machine.config.stackSize⟩
        refine .inl ⟨stack, _, .made found handed rfl rfl, ?_⟩
        simp only [stackFor, Run.on_bind, Run.on_get, found, allocate_on, handed, Run.on_modify,
          Run.on_pure, stack]

/-- A thread that is granted a stack has it or is given it, by the allocator. -/
theorem grants_of_stackFor {machine ready : Machine} {thread : ThreadId} {stack : Stack}
    (granted : (stackFor thread).on machine = (.ok stack, ready)) :
    machine.Grants thread stack ready := by
  obtain ⟨_, _, grants, ran⟩ | ⟨_, _, _, ran⟩ := machine.stackFor_granted_or_refused thread
  · rw [ran] at granted
    cases granted
    exact grants
  · rw [ran] at granted
    cases granted

/-- A thread that is refused a stack has none, and memory has no room for one. -/
theorem stackFor_eq_error {machine after : Machine} {thread : ThreadId} {fault : Fault}
    (refused : (stackFor thread).on machine = (.error fault, after)) :
    after = machine ∧ machine.stack? thread = none ∧
      machine.memory.allocate machine.config.stackSize.toNat stackAlignment = .error fault := by
  obtain ⟨_, _, _, ran⟩ | ⟨_, absent, full, ran⟩ := machine.stackFor_granted_or_refused thread
  · rw [ran] at refused
    cases refused
  · rw [ran] at refused
    cases refused
    exact ⟨rfl, absent, full⟩

/-- Asking for a stack touches only memory and the stacks. -/
theorem stackFor_frame (machine : Machine) (thread : ThreadId) :
    ∃ memory threadStacks,
      ((stackFor thread).on machine).2 = { machine with memory, threadStacks } := by
  obtain ⟨_, _, grants, ran⟩ | ⟨_, _, _, ran⟩ := machine.stackFor_granted_or_refused thread
  · rw [ran]
    exact grants.frame
  · rw [ran]
    exact ⟨machine.memory, machine.threadStacks, rfl⟩

/-- A stack that was there before someone asked for one is there afterwards. -/
theorem stack?_stackFor {machine : Machine} {owner : ThreadId} {stack : Stack}
    (owned : machine.stack? owner = some stack) (thread : ThreadId) :
    ((stackFor thread).on machine).2.stack? owner = some stack := by
  obtain ⟨_, _, grants, ran⟩ | ⟨_, _, _, ran⟩ := machine.stackFor_granted_or_refused thread
  · rw [ran]
    exact grants.keeps owned
  · rw [ran]
    exact owned

/-- Asking for a thread's stack is nothing to other threads. -/
theorem stack?_stackFor_other (machine : Machine) {thread other : ThreadId}
    (different : other ≠ thread) :
    ((stackFor thread).on machine).2.stack? other = machine.stack? other := by
  obtain ⟨_, _, grants, ran⟩ | ⟨_, _, _, ran⟩ := machine.stackFor_granted_or_refused thread
  · rw [ran]
    exact grants.stack?_other different
  · rw [ran]

/-- What asking for a thread's stack does: the stack is there, or it is made, or there is none. -/
theorem stackFor_cases {machine : Machine} (sound : machine.memory.Sound) (thread : ThreadId) :
    (∃ stack, machine.stack? thread = some stack ∧
      (stackFor thread).on machine = (.ok stack, machine)) ∨
    (machine.stack? thread = none ∧ ∃ stack : Stack,
      stack.base.toNat = machine.memory.nextStart stackAlignment ∧
      stack.top.toNat = stack.base.toNat + machine.config.stackSize.toNat ∧
      stack.top.toNat ≤ machine.memory.base.toNat + machine.memory.size ∧
      (stackFor thread).on machine =
        (.ok stack, (machine.taken stack.top.toNat).setStack thread stack)) ∨
    (machine.stack? thread = none ∧ ∃ fault,
      (stackFor thread).on machine = (.error fault, machine)) := by
  cases found : machine.stack? thread with
  | some stack =>
      exact .inl ⟨stack, rfl, stackFor_of_some found⟩
  | none =>
      rcases allocate_cases sound machine.config.stackSize.toNat stackAlignment with
        ⟨⟨_, room⟩, address, start, ran⟩ | ⟨_, fault, _, ran⟩
      · rw [NativeMemory.RoomFor, ← start] at room
        have small : address.toNat + machine.config.stackSize.toNat < UInt64.size :=
          Nat.lt_of_le_of_lt room sound.addressable
        have top : (address + machine.config.stackSize).toNat =
            address.toNat + machine.config.stackSize.toNat := by
          rw [UInt64.toNat_add]
          exact Nat.mod_eq_of_lt small
        refine .inr (.inl ⟨rfl, ⟨address, address + machine.config.stackSize,
          address + machine.config.stackSize⟩, start, top, top ▸ room, ?_⟩)
        simp only [stackFor, Run.on_bind, Run.on_get, found, ran, top, Run.on_modify, Run.on_pure]
      · refine .inr (.inr ⟨rfl, fault, ?_⟩)
        simp only [stackFor, Run.on_bind, Run.on_get, found, ran]

end Machine

end IrMachine
