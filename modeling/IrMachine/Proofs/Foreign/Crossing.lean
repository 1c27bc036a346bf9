import IrMachine.Foreign.Call
import IrMachine.Proofs.Allocation

/-!
# What a foreign call can do to the machine

Foreign code reaches the machine through a few requests only. `Crossing` lists what they do to it,
one step at a time, and `CallSite.execute_crossing` says that a whole call, with all the calls that
it nests, is made of such steps. Whatever every step keeps is then kept by every call.
-/

namespace IrMachine

/-- What foreign code on a thread can make of a machine: objects change, the thread's stack is made,
and its stack pointer is moved. -/
inductive Crossing (thread : ThreadId) (before : Machine) : Machine → Prop where
  | refl : Crossing thread before before
  | objects {current : Machine} (objects : ObjectTable)
      (crossing : Crossing thread before current) : Crossing thread before { current with objects }
  | stack {current : Machine} (crossing : Crossing thread before current) :
      Crossing thread before ((Machine.stackFor thread).on current).2
  | pointer {current : Machine} {stack : Stack} (pointer : UInt64)
      (crossing : Crossing thread before current) (owned : current.stack? thread = some stack) :
      Crossing thread before (current.setStack thread { stack with pointer })

namespace Crossing

variable {thread : ThreadId} {before middle after : Machine}

theorem trans (first : Crossing thread before middle) (second : Crossing thread middle after) :
    Crossing thread before after := by
  induction second with
  | refl => exact first
  | objects objects _ ih => exact .objects objects ih
  | stack _ ih => exact .stack ih
  | pointer pointer _ owned ih => exact .pointer pointer ih owned

/-- No stack moves, of whatever thread. -/
theorem stack?_kept (crossing : Crossing thread before after) {owner : ThreadId} {stack : Stack}
    (owned : before.stack? owner = some stack) :
    ∃ pointer, after.stack? owner = some { stack with pointer } := by
  induction crossing with
  | refl => exact ⟨stack.pointer, owned⟩
  | objects _ _ ih => exact ih
  | stack _ ih =>
      obtain ⟨pointer, kept⟩ := ih
      exact ⟨pointer, Machine.stack?_stackFor kept thread⟩
  | pointer pointer _ present ih =>
      obtain ⟨before, kept⟩ := ih
      by_cases same : owner = thread
      · subst same
        obtain rfl := Option.some.inj (present.symm.trans kept)
        exact ⟨pointer, (Machine.stack?_setStack ..).trans (if_pos rfl)⟩
      · exact ⟨before, (Machine.stack?_setStack ..).trans ((if_neg same).trans kept)⟩

/-- The stacks of other threads stay as they are, and none is made for them. -/
theorem stack?_other (crossing : Crossing thread before after) {other : ThreadId}
    (different : other ≠ thread) : after.stack? other = before.stack? other := by
  induction crossing with
  | refl => rfl
  | objects _ _ ih => exact ih
  | stack _ ih => exact (Machine.stack?_stackFor_other _ different).trans ih
  | pointer pointer _ _ ih =>
      exact (Machine.stack?_setStack ..).trans ((if_neg different).trans ih)

/-- A crossing touches only memory, the stacks and the objects. -/
theorem frame (crossing : Crossing thread before after) :
    ∃ memory threadStacks objects, after = { before with memory, threadStacks, objects } := by
  induction crossing with
  | refl => exact ⟨_, _, _, rfl⟩
  | objects objects _ ih =>
      obtain ⟨memory, threadStacks, _, rfl⟩ := ih
      exact ⟨memory, threadStacks, objects, rfl⟩
  | @stack current _ ih =>
      obtain ⟨_, _, objects, same⟩ := ih
      obtain ⟨memory, threadStacks, asked⟩ := current.stackFor_frame thread
      exact ⟨memory, threadStacks, objects, by rw [asked, same]⟩
  | pointer pointer _ _ ih =>
      obtain ⟨memory, _, objects, rfl⟩ := ih
      exact ⟨memory, _, objects, rfl⟩

end Crossing

/-- A way of invoking objects that does no more to the machine than foreign code can. -/
def Invoke.Crosses (invoke : Invoke) (thread : ThreadId) : Prop :=
  ∀ id args machine, Crossing thread machine (invoke id args machine).machine

variable {invoke : Invoke} {thread : ThreadId}

theorem Machine.setStackPointer_crossing (machine : Machine) (thread : ThreadId)
    (pointer : UInt64) :
    Crossing thread machine ((setStackPointer thread pointer).on machine).2 := by
  have made : Crossing thread machine ((stackFor thread).on machine).2 := .stack .refl
  rw [setStackPointer, Run.on_bind]
  rcases asked : (stackFor thread).on machine with ⟨fault | stack, after⟩
  · rw [asked] at made
    exact made
  · rw [asked] at made
    exact .pointer pointer made (grants_of_stackFor asked).owned

/-- The pointer is put back on the stack that the thread had when the call began. -/
theorem CallSite.cross_crossing (crosses : invoke.Crosses thread) {machine : Machine}
    {stack : Stack} (owned : machine.stack? thread = some stack) (pointer : UInt64)
    (id : ObjectId) (args : List Raw) :
    Crossing thread machine (cross invoke thread stack pointer id args machine).machine := by
  have entered : Crossing thread machine (machine.setStack thread { stack with pointer }) :=
    .pointer pointer .refl owned
  have returned := crosses id args (machine.setStack thread { stack with pointer })
  obtain ⟨left, present⟩ := returned.stack?_kept ((Machine.stack?_setStack ..).trans (if_pos rfl))
  have restored := (entered.trans returned).pointer pointer present
  exact restored

theorem CallSite.execute_crossing (crosses : invoke.Crosses thread) (site : CallSite)
    (machine : Machine) (target : Value) (args : List Value) (pointer : UInt64) :
    Crossing thread machine (site.execute invoke thread machine target args pointer).machine := by
  rw [execute]
  rcases site.prepare machine target args with ⟨fault | ⟨id, raws⟩, asked⟩
  · exact .refl
  · have made : Crossing thread machine ((Machine.stackFor thread).on machine).2 := .stack .refl
    rcases granted : (Machine.stackFor thread).on machine with ⟨fault | stack, ready⟩
    · rw [granted] at made
      exact made
    · rw [granted] at made
      have owned := (Machine.grants_of_stackFor granted).owned
      have crossed := made.trans (cross_crossing crosses owned pointer id raws)
      simp only [conclude]
      split
      · exact crossed
      · exact .objects _ crossed

theorem Script.run_crossing (crosses : invoke.Crosses thread) (script : Script)
    (machine : Machine) : Crossing thread machine (script.run invoke thread machine).machine := by
  induction script generalizing machine with
  | finish answer => exact .refl
  | note entry next ih =>
      exact (Crossing.objects _ .refl).trans (ih { machine with objects := _ })
  | stackPointer next ih =>
      have made : Crossing thread machine ((Machine.stackFor thread).on machine).2 := .stack .refl
      rw [run]
      split
      · exact made
      · exact made.trans (ih _ _)
  | setStackPointer pointer next ih =>
      have moved := machine.setStackPointer_crossing thread pointer
      rw [run]
      split
      · exact moved
      · exact moved.trans (ih _)
  | call signature target args pointer next ih =>
      have called := CallSite.execute_crossing crosses { signature } machine target args pointer
      rw [run]
      dsimp only
      split
      · exact called
      · exact called.trans (ih _ _)
  | find name next ih => exact ih _ machine
  | escape value ty next ih => exact ih _ machine

/-- Calls may be nested to any depth. -/
theorem Machine.invoke_crosses (thread : ThreadId) (depth : Nat) :
    (Machine.invoke thread depth).Crosses thread := by
  induction depth with
  | zero => exact fun _ _ _ => .refl
  | succ depth ih => exact fun id args machine => Script.run_crossing ih _ machine

end IrMachine
