import IrMachine.Proofs.Foreign.Crossing
import IrMachine.Proofs.Foreign.Outcome

/-!
# Stack pointers in call trees

A callee is any foreign code: it may move the stack pointer whenever it likes, and it may call back
into the machine, whereupon other callees do the same. `Call.Contains` is the tree of calls that
arises, with any of them failing at any place. The main result, `Call.stack_pointer_survives`,
follows every call of such a tree: its callee starts with the stack pointer that the caller gave,
and the caller finds that stack pointer again, whatever became of the call.

What holds of one call is `Call.Pinned`, and it holds for any way of invoking objects at all. What
the tree adds is what all of it leaves alone: the places of all stacks and the stacks of all other
threads.
-/

namespace IrMachine

/-- One call of a call tree: what it is made with, and the machine that it is made on. -/
structure Call where
  site : CallSite
  target : Value
  args : List Value
  pointer : UInt64
  machine : Machine

namespace Call

def reply (call : Call) (invoke : Invoke) (thread : ThreadId) : Reply Fault Value :=
  (call.site.execute invoke thread call.machine call.target call.args call.pointer).toReply

/-- The call reaches the boundary: it invokes an object with raw arguments, and `start` is the
machine that the callee starts on. -/
def Enters (call : Call) (thread : ThreadId) (id : ObjectId) (raws : List Raw)
    (start : Machine) : Prop :=
  call.site.Prepared call.machine call.target call.args id raws ∧
    ∃ stack ready, (Machine.stackFor thread).on call.machine = (.ok stack, ready) ∧
      start = ready.setStack thread { stack with pointer := call.pointer }

end Call

namespace Script

/-- What is left of foreign code after its first request, and the machine that it goes on with.
After a request that the machine abandons nothing is left. -/
def next (invoke : Invoke) (thread : ThreadId) : Script → Machine → Option (Script × Machine)
  | finish _, _ => none
  | note entry rest, machine =>
      some (rest, { machine with
        objects := entry.objects.foldl ObjectTable.mention machine.objects })
  | stackPointer rest, machine =>
      let found := (Machine.stackFor thread).on machine
      if abandoned found.1 then none else some (rest (found.1.map Stack.pointer), found.2)
  | setStackPointer pointer rest, machine =>
      let moved := (Machine.setStackPointer thread pointer).on machine
      if abandoned moved.1 then none else some (rest, moved.2)
  | call signature target args pointer rest, machine =>
      let reply := CallSite.execute { signature } invoke thread machine target args pointer
      if abandoned reply.result then none else some (rest reply.result, reply.machine)
  | find name rest, machine => some (rest (machine.objects.find? name), machine)
  | escape value ty rest, machine => some (rest (value.escape machine.resolve ty), machine)

/-- Foreign code that starts on a machine comes to a point of its run where this code is left. -/
inductive Reaches (invoke : Invoke) (thread : ThreadId) (script : Script) (machine : Machine) :
    Script → Machine → Prop where
  | start : Reaches invoke thread script machine script machine
  | step {current rest : Script} {before after : Machine}
      (reached : Reaches invoke thread script machine current before)
      (next : current.next invoke thread before = some (rest, after)) :
      Reaches invoke thread script machine rest after

variable {invoke : Invoke} {thread : ThreadId} {script rest : Script} {machine after : Machine}

theorem run_of_next (next : script.next invoke thread machine = some (rest, after)) :
    (script.run invoke thread machine).result = (rest.run invoke thread after).result ∧
      (script.run invoke thread machine).machine = (rest.run invoke thread after).machine := by
  cases script with
  | finish answer => cases next
  | stackPointer look =>
      obtain ⟨goesOn, same⟩ := Option.ite_none_left_eq_some.mp next
      cases same
      simp only [run, if_neg goesOn, and_self]
  | setStackPointer pointer rest =>
      obtain ⟨goesOn, same⟩ := Option.ite_none_left_eq_some.mp next
      cases same
      simp only [run, if_neg goesOn, and_self]
  | call signature target args pointer look =>
      obtain ⟨goesOn, same⟩ := Option.ite_none_left_eq_some.mp next
      cases same
      simp only [run, if_neg goesOn, and_self]
  | _ => cases next; exact ⟨rfl, rfl⟩

/-- A run goes on with what is left at any of its points. -/
theorem Reaches.run (reached : Reaches invoke thread script machine rest after) :
    (script.run invoke thread machine).result = (rest.run invoke thread after).result ∧
      (script.run invoke thread machine).machine = (rest.run invoke thread after).machine := by
  induction reached with
  | start => exact ⟨rfl, rfl⟩
  | step _ next ih =>
      obtain ⟨result, machine⟩ := run_of_next next
      exact ⟨ih.1.trans result, ih.2.trans machine⟩

theorem next_crossing (crosses : invoke.Crosses thread)
    (next : script.next invoke thread machine = some (rest, after)) :
    Crossing thread machine after := by
  cases script with
  | finish answer => cases next
  | note entry rest => cases next; exact .objects _ .refl
  | stackPointer rest =>
      obtain ⟨_, same⟩ := Option.ite_none_left_eq_some.mp next
      cases same
      exact .stack .refl
  | setStackPointer pointer rest =>
      obtain ⟨_, same⟩ := Option.ite_none_left_eq_some.mp next
      cases same
      exact machine.setStackPointer_crossing thread pointer
  | call signature target args pointer rest =>
      obtain ⟨_, same⟩ := Option.ite_none_left_eq_some.mp next
      cases same
      exact CallSite.execute_crossing crosses { signature } machine target args pointer
  | find name rest => cases next; exact .refl
  | escape value ty rest => cases next; exact .refl

theorem Reaches.crossing (crosses : invoke.Crosses thread)
    (reached : Reaches invoke thread script machine rest after) :
    Crossing thread machine after := by
  induction reached with
  | start => exact .refl
  | step _ next ih => exact ih.trans (next_crossing crosses next)

end Script

namespace CallSite

/-- What a call does with an answer is nothing to any stack. -/
theorem conclude_stack? (site : CallSite) (reply : Reply ForeignFault Raw) (thread : ThreadId) :
    (site.conclude reply).machine.stack? thread = reply.machine.stack? thread := by
  rw [conclude]
  split <;> rfl

/-- A call fails with a fault of the foreign boundary once it has an answer. -/
theorem conclude_not_abandoned (site : CallSite) (reply : Reply ForeignFault Raw) :
    Script.abandoned (site.conclude reply).result = false := by
  rw [conclude]
  split
  · rfl
  · rcases site.conversions.accept .. with ⟨fault | value, objects⟩
    · rfl
    · rfl

end CallSite

namespace Call

variable {call : Call} {thread : ThreadId} {id : ObjectId} {raws : List Raw} {start : Machine}

/-- What holds of a call that reaches the boundary, however objects are invoked and whatever becomes
of the call. -/
structure Pinned (call : Call) (thread : ThreadId) (id : ObjectId) (raws : List Raw)
    (start : Machine) : Prop where
  /-- The callee starts with the stack pointer that the caller gave. -/
  given : (start.stack? thread).map Stack.pointer = some call.pointer
  /-- The call ends with the stack as it was for the callee at its start. -/
  restored : ∀ invoke, (call.reply invoke thread).machine.stack? thread = start.stack? thread
  /-- What the call reports is what this one invocation reports. -/
  invoked : ∀ invoke, (call.reply invoke thread).notes = (invoke id raws start).notes
  /-- Foreign code that made the call and looks at the stack pointer next finds the one it gave. -/
  seen : ∀ signature, call.site = { signature } →
    ∀ (invoke : Invoke) (look : Except Fault Value → Except Fault UInt64 → Script),
      (Script.run invoke thread (.call signature call.target call.args call.pointer
          fun result => .stackPointer (look result)) call.machine).result =
        ((look (call.reply invoke thread).result (.ok call.pointer)).run invoke thread
          (call.reply invoke thread).machine).result
  /-- The stacks of other threads change in the callee only. -/
  others : ∀ other, other ≠ thread → start.stack? other = call.machine.stack? other ∧
    ∀ invoke, (call.reply invoke thread).machine.stack? other =
      (invoke id raws start).machine.stack? other

theorem Enters.crossing (enters : call.Enters thread id raws start) :
    Crossing thread call.machine start := by
  obtain ⟨_, stack, ready, granted, rfl⟩ := enters
  have made : Crossing thread call.machine ((Machine.stackFor thread).on call.machine).2 :=
    .stack .refl
  rw [granted] at made
  exact .pointer call.pointer made (Machine.grants_of_stackFor granted).owned

/-- The stack on which the callee starts and to which the call returns. -/
theorem Enters.stack? (enters : call.Enters thread id raws start) :
    ∃ stack, start.stack? thread = some stack ∧ stack.pointer = call.pointer ∧
      ∀ invoke, (call.reply invoke thread).notes = (invoke id raws start).notes ∧
        ∀ owner, (call.reply invoke thread).machine.stack? owner =
          if owner = thread then some stack else (invoke id raws start).machine.stack? owner := by
  obtain ⟨prepared, stack, ready, granted, rfl⟩ := enters
  refine ⟨{ stack with pointer := call.pointer }, ?_, rfl, fun invoke => ?_⟩
  · exact (Machine.stack?_setStack ..).trans (if_pos rfl)
  · rw [reply, prepared.execute granted]
    refine ⟨CallSite.conclude_notes .., fun owner => ?_⟩
    rw [CallSite.conclude_stack?]
    exact Machine.stack?_setStack ..

/-- A call that reached its callee is not abandoned. -/
theorem Enters.not_abandoned (enters : call.Enters thread id raws start) (invoke : Invoke) :
    Script.abandoned (call.reply invoke thread).result = false := by
  obtain ⟨prepared, stack, ready, granted, rfl⟩ := enters
  rw [reply, prepared.execute granted]
  exact CallSite.conclude_not_abandoned ..

/-- The next look at the stack pointer after a call that left it at a value. -/
theorem reaches_look {stack : Stack} {signature : Signature} (plain : call.site = { signature })
    (invoke : Invoke) (look : Except Fault Value → Except Fault UInt64 → Script)
    (goesOn : Script.abandoned (call.reply invoke thread).result = false)
    (kept : (call.reply invoke thread).machine.stack? thread = some stack) :
    Script.Reaches invoke thread (.call signature call.target call.args call.pointer
        fun result => .stackPointer (look result)) call.machine
      (look (call.reply invoke thread).result (.ok stack.pointer))
      (call.reply invoke thread).machine := by
  rw [reply, plain] at goesOn kept ⊢
  have called : Script.next invoke thread (.call signature call.target call.args call.pointer
      fun result => .stackPointer (look result)) call.machine = some _ :=
    if_neg (Bool.eq_false_iff.mp goesOn)
  apply Script.Reaches.step (.step .start called)
  rw [Script.next, Machine.stackFor_of_some kept]
  rfl

theorem Enters.pinned (enters : call.Enters thread id raws start) :
    call.Pinned thread id raws start := by
  obtain ⟨stack, owned, pointer, returned⟩ := enters.stack?
  have kept : ∀ invoke, (call.reply invoke thread).machine.stack? thread = some stack := by
    intro invoke
    exact ((returned invoke).2 thread).trans (if_pos rfl)
  refine ⟨?_, ?_, fun invoke => (returned invoke).1, ?_, ?_⟩
  · rw [owned, ← pointer]
    rfl
  · intro invoke
    rw [kept, owned]
  · intro signature plain invoke look
    have reached := reaches_look plain invoke look (enters.not_abandoned invoke) (kept invoke)
    have looked := reached.run.1
    rw [pointer] at looked
    exact looked
  · intro other different
    refine ⟨enters.crossing.stack?_other different, fun invoke => ?_⟩
    exact ((returned invoke).2 other).trans (if_neg different)

/-- A call that does not reach the boundary changes nothing. -/
theorem reply_of_refused (refused : ∀ id raws start, ¬ call.Enters thread id raws start)
    (invoke : Invoke) : (call.reply invoke thread).machine = call.machine := by
  obtain ⟨id, raws, prepared⟩ | ⟨fault, asked, stopped, _⟩ :=
    call.site.prepare_cases call.machine call.target call.args
  · rcases found : (Machine.stackFor thread).on call.machine with ⟨fault | stack, ready⟩
    · rw [reply, prepared.execute_of_stackless found]
    · exact absurd ⟨prepared, stack, ready, found, rfl⟩ (refused id raws _)
  · rw [reply, CallSite.execute_of_refused stopped]

/-- The calls of a tree, each with how many calls it may still nest: a call itself, and all calls
that the code of its callee comes to make, at any level. -/
inductive Contains (thread : ThreadId) : Nat → Call → Nat → Call → Prop where
  | self (depth : Nat) (call : Call) : Contains thread depth call depth call
  | inner {depth depth' : Nat} {outer call : Call} {id : ObjectId} {raws : List Raw}
      {start machine : Machine} {signature : Signature} {target : Value} {args : List Value}
      {pointer : UInt64} {next : Except Fault Value → Script}
      (enters : outer.Enters thread id raws start)
      (reached : Script.Reaches (Machine.invoke thread depth) thread
        ((start.objects.get id).execute raws) start
        (.call signature target args pointer next) machine)
      (contains :
        Contains thread depth ⟨{ signature }, target, args, pointer, machine⟩ depth' call) :
      Contains thread (depth + 1) outer depth' call

theorem Contains.crossing {depth depth' : Nat} {root call : Call}
    (contains : Contains thread depth root depth' call) :
    Crossing thread root.machine call.machine := by
  induction contains with
  | self depth call => exact .refl
  | inner enters reached _ ih =>
      exact (enters.crossing.trans (reached.crossing (Machine.invoke_crosses thread _))).trans ih

/-- The stack pointer survives any callee. Every call of a tree that reaches the boundary keeps it
as `Pinned` says, and one that does not reach it changes nothing. Over the whole tree no stack
moves, and those of other threads keep their stack pointers too. -/
theorem stack_pointer_survives {depth depth' : Nat} {root call : Call}
    (contains : Contains thread depth root depth' call) :
    (∀ id raws start, call.Enters thread id raws start → call.Pinned thread id raws start) ∧
      ((∀ id raws start, ¬ call.Enters thread id raws start) →
        ∀ invoke, (call.reply invoke thread).machine = call.machine) ∧
      (∀ other, other ≠ thread → call.machine.stack? other = root.machine.stack? other ∧
        (call.reply (Machine.invoke thread depth') thread).machine.stack? other =
          root.machine.stack? other) ∧
      ∀ stack, root.machine.stack? thread = some stack → ∃ pointer,
        (call.reply (Machine.invoke thread depth') thread).machine.stack? thread =
          some { stack with pointer } := by
  have before := contains.crossing
  have whole := before.trans (CallSite.execute_crossing (Machine.invoke_crosses thread depth')
    call.site call.machine call.target call.args call.pointer)
  refine ⟨fun id raws start enters => enters.pinned, reply_of_refused, ?_, ?_⟩
  · intro other different
    exact ⟨before.stack?_other different, whole.stack?_other different⟩
  · intro stack owned
    exact whole.stack?_kept owned

/-- Foreign code that leaves the stack pointer elsewhere. The first object calls the second on the
way, which fails. -/
def restless : Machine :=
  { Machine.start { memoryBase := 0x100, memorySize := 64, stackSize := 16 } with
    objects := { objects := #[
      { text := "outer"
        execute := fun _ =>
          .setStackPointer 5 (.call ⟨[], .void⟩ (.address (.object ⟨1⟩ 0)) [] 0x108 fun _ =>
            .setStackPointer 6 (.finish (.ok .null))) },
      { text := "inner"
        execute := fun _ =>
          .setStackPointer 7 (.finish (.error (.unsupportedMessage .execute))) }] } }

def outerCall : Call :=
  ⟨{ signature := ⟨[], .void⟩ }, .address (.object ⟨0⟩ 0), [], 0x110, restless⟩

def innerCall : Call :=
  ⟨{ signature := ⟨[], .void⟩ }, .address (.object ⟨1⟩ 0), [], 0x108,
    ((Machine.setStackPointer 0 5).on restless).2⟩

/-- The inner call fails and the outer one succeeds, and each ends with the stack pointer that it
was made with. -/
theorem restless_calls_restore :
    Contains 0 2 outerCall 1 innerCall ∧
      (innerCall.machine.stack? 0).map Stack.pointer = some 5 ∧
      (innerCall.reply (Machine.invoke 0 1) 0).result =
        .error (.foreign (.unsupportedMessage .execute)) ∧
      ((innerCall.reply (Machine.invoke 0 1) 0).machine.stack? 0).map Stack.pointer =
        some 0x108 ∧
      (outerCall.reply (Machine.invoke 0 2) 0).result = .ok .void ∧
      ((outerCall.reply (Machine.invoke 0 2) 0).machine.stack? 0).map Stack.pointer =
        some 0x110 := by
  have outside : outerCall.Enters 0 ⟨0⟩ [] _ := ⟨⟨rfl, rfl, .nil⟩, _, _, rfl, rfl⟩
  have inside : innerCall.Enters 0 ⟨1⟩ [] _ := ⟨⟨rfl, rfl, .nil⟩, _, _, rfl, rfl⟩
  have contains : Contains 0 2 outerCall 1 innerCall :=
    .inner outside (.step .start rfl) (.self 1 innerCall)
  have outer := (stack_pointer_survives (.self 2 outerCall)).1 _ _ _ outside
  have inner := (stack_pointer_survives contains).1 _ _ _ inside
  refine ⟨contains, rfl, rfl, ?_, rfl, ?_⟩
  · rw [inner.restored]
    exact inner.given
  · rw [outer.restored]
    exact outer.given

end Call

end IrMachine
