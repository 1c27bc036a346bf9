import IrMachine.Foreign.Call
import IrMachine.Proofs.Allocation

/-!
# What becomes of a foreign call

A call can stop at several places before it reaches its callee. `CallSite.Outcome` lists them in the
order in which they are met, each with its fault, with the arguments that were converted by then and
with the machine as it was, and after them the two ways in which an invoked callee can answer.
`CallSite.execute_all_or_nothing` says that nothing else becomes of a call, for any way of
converting values and any way of invoking objects; so either the callee is invoked once, with the
foreign forms of all arguments, or nothing has happened.

One of the places is a sum of addresses that is not a word, when a stack is looked for. A thread
whose stack would fit, or would be refused for want of room, is then given neither the one nor the
other.
-/

namespace IrMachine

/-- Reports every invocation, with its arguments, ahead of what the callee reports itself. -/
def Invoke.reported (invoke : Invoke) : Invoke := fun id args machine =>
  let reply := invoke id args machine
  { reply with notes := .arguments args :: reply.notes }

namespace CallSite

/-- Arguments have foreign forms, each after those before it were converted; `asked` were converted
before all of them. -/
inductive Converts (site : CallSite) (machine : Machine) :
    List Argument → List Argument → List Raw → Prop where
  | nil {asked : List Argument} : Converts site machine asked [] []
  | cons {asked rest : List Argument} {argument : Argument} {raw : Raw} {raws : List Raw}
      (first : site.conversions.escape machine asked argument = .ok raw)
      (others : Converts site machine (asked ++ [argument]) rest raws) :
      Converts site machine asked (argument :: rest) (raw :: raws)

/-- The target is an object in its place, the number of arguments is right, and all of them have
foreign forms. -/
structure Prepared (site : CallSite) (machine : Machine) (target : Value) (args : List Value)
    (id : ObjectId) (raws : List Raw) : Prop where
  refers : target = .address (.object id 0)
  count : args.length = site.arity
  escaped : site.Converts machine [] (site.signature.params.zip args) raws

section Outcome

variable (site : CallSite) (invoke : Invoke) (thread : ThreadId) (machine : Machine)
variable (target : Value) (args : List Value) (pointer : UInt64)

/-- What can become of a call: its reply, with the arguments that it had converted, and the
arguments of every invocation it has made. -/
inductive Outcome : CallReply → List (List Raw) → Prop where
  /-- The target was moved away from its object. -/
  | displaced {id : ObjectId} {offset : Int64} (refers : target = .address (.object id offset))
      (moved : offset ≠ 0) :
      Outcome { result := .error (.operand "execute" (.displaced offset)), machine, asked := [] } []
  /-- The target is no foreign reference. -/
  | notCallable (other : ∀ id offset, target ≠ .address (.object id offset)) :
      Outcome { result := .error (.notCallable target.typeName), machine, asked := [] } []
  | miscounted {id : ObjectId} (refers : target = .address (.object id 0))
      (wrong : args.length ≠ site.arity) :
      Outcome
        { result := .error (.operand "execute" (.argumentCount site.arity args.length))
          machine, asked := [] } []
  /-- All arguments before this one have a foreign form, and this one has none. Those behind it are
  not converted. -/
  | unescaped {id : ObjectId} {done rest : List Argument} {argument : Argument}
      {raws : List Raw} {fault : Fault} (refers : target = .address (.object id 0))
      (count : args.length = site.arity)
      (split : site.signature.params.zip args = done ++ argument :: rest)
      (escaped : site.Converts machine [] done raws)
      (refused : site.conversions.escape machine done argument = .error fault) :
      Outcome { result := .error fault, machine, asked := done ++ [argument] } []
  /-- The thread has no stack, and memory has no room for one. -/
  | stackless {id : ObjectId} {raws : List Raw} {start : UInt64} {size : Nat}
      (prepared : site.Prepared machine target args id raws)
      (absent : machine.stack? thread = none)
      (full : machine.memory.allocate machine.config.stackSize.toNat Machine.stackAlignment =
        .error (.memory start size)) :
      Outcome
        { result := .error (.memory start size), machine
          asked := site.signature.params.zip args } []
  /-- The thread has no stack, and looking for one is abandoned at a sum. -/
  | overflowed {id : ObjectId} {raws : List Raw}
      (prepared : site.Prepared machine target args id raws)
      (absent : machine.stack? thread = none)
      (abandoned : machine.memory.allocate machine.config.stackSize.toNat
        Machine.stackAlignment = .error .overflow) :
      Outcome
        { result := .error .overflow, machine, asked := site.signature.params.zip args } []
  /-- The callee was invoked and failed. -/
  | failed {id : ObjectId} {raws : List Raw} {stack : Stack} {ready : Machine}
      {answer : Reply ForeignFault Raw} {fault : ForeignFault}
      (prepared : site.Prepared machine target args id raws)
      (granted : machine.Grants thread stack ready)
      (invoked : invoke id raws (ready.setStack thread { stack with pointer }) = answer)
      (result : answer.result = .error fault) :
      Outcome
        { result := .error (.foreign fault)
          machine := answer.machine.setStack thread { stack with pointer }
          notes := answer.notes
          asked := site.signature.params.zip args } [raws]
  /-- The callee was invoked and answered. The answer is converted when the stack pointer is back in
  its place. -/
  | answered {id : ObjectId} {raws : List Raw} {stack : Stack} {ready : Machine}
      {answer : Reply ForeignFault Raw} {raw : Raw} {value : Except ForeignFault Value}
      {objects : ObjectTable} (prepared : site.Prepared machine target args id raws)
      (granted : machine.Grants thread stack ready)
      (invoked : invoke id raws (ready.setStack thread { stack with pointer }) = answer)
      (result : answer.result = .ok raw)
      (accepted : site.conversions.accept answer.machine.objects site.signature.result raw =
        (value, objects)) :
      Outcome
        { result := value.mapError .foreign
          machine := { answer.machine.setStack thread { stack with pointer } with objects }
          notes := answer.notes
          asked := site.signature.params.zip args } [raws]

end Outcome

/-- The call stops before it asks for a stack, and that is one of its outcomes. -/
def Stops (site : CallSite) (machine : Machine) (target : Value) (args : List Value) : Prop :=
  ∃ fault asked, site.prepare machine target args = (.error fault, asked) ∧
    ∀ invoke thread pointer, site.Outcome invoke thread machine target args pointer
      { result := .error fault, machine, asked } []

variable {site : CallSite} {machine : Machine} {target : Value} {args : List Value}

theorem Converts.escapeAll {asked arguments : List Argument} {raws : List Raw}
    (converts : site.Converts machine asked arguments raws) :
    site.escapeAll machine asked arguments = (.ok raws, asked ++ arguments) := by
  induction converts with
  | nil => rw [CallSite.escapeAll, List.append_nil]
  | @cons asked rest argument raw raws first _ ih =>
      simp only [CallSite.escapeAll, first, ih, List.append_assoc, List.singleton_append]
      rfl

/-- Escaping goes from left to right and stops at the first argument that has no foreign form. -/
theorem escapeAll_cases (site : CallSite) (machine : Machine) (asked arguments : List Argument) :
    (∃ raws, site.Converts machine asked arguments raws) ∨
    ∃ done argument rest raws fault, arguments = done ++ argument :: rest ∧
      site.Converts machine asked done raws ∧
      site.conversions.escape machine (asked ++ done) argument = .error fault ∧
      site.escapeAll machine asked arguments = (.error fault, asked ++ done ++ [argument]) := by
  induction arguments generalizing asked with
  | nil => exact .inl ⟨[], .nil⟩
  | cons argument rest ih =>
      cases first : site.conversions.escape machine asked argument with
      | error fault =>
          refine .inr ⟨[], argument, rest, [], fault, rfl, .nil, ?_, ?_⟩
          · rw [List.append_nil]
            exact first
          · simp only [escapeAll, first, List.append_nil]
      | ok raw =>
          obtain ⟨raws, others⟩ |
            ⟨done, stuck, behind, raws, fault, split, others, refused, all⟩ :=
            ih (asked ++ [argument])
          · exact .inl ⟨raw :: raws, .cons first others⟩
          · refine .inr ⟨argument :: done, stuck, behind, raw :: raws, fault, ?_,
              .cons first others, ?_, ?_⟩
            · rw [split, List.cons_append]
            · rw [List.append_cons]
              exact refused
            · simp only [escapeAll, first, all]
              rw [List.append_cons asked argument done]
              rfl

/-- What the target of a call can be. -/
theorem callee_cases (target : Value) :
    (∃ id, target = .address (.object id 0) ∧ callee target = .ok id) ∨
    (∃ id offset, target = .address (.object id offset) ∧ offset ≠ 0 ∧
      callee target = .error (.operand "execute" (.displaced offset))) ∨
    ((∀ id offset, target ≠ .address (.object id offset)) ∧
      callee target = .error (.notCallable target.typeName)) := by
  cases target with
  | scalar value => exact .inr (.inr ⟨nofun, rfl⟩)
  | void => exact .inr (.inr ⟨nofun, rfl⟩)
  | address address =>
      cases address with
      | object id offset =>
          by_cases unmoved : offset = 0
          · subst unmoved
            exact .inl ⟨id, rfl, rfl⟩
          · refine .inr (.inl ⟨id, offset, rfl, unmoved, ?_⟩)
            simp only [callee, Address.unmovedObject, if_neg unmoved]
            rfl
      | _ => exact .inr (.inr ⟨nofun, rfl⟩)

theorem arguments_of_callee {fault : Fault} (refused : callee target = .error fault) :
    site.arguments target args = .error fault := by
  rw [arguments, refused]
  rfl

theorem arguments_of_object (id : ObjectId) (count : args.length = site.arity) :
    site.arguments (.address (.object id 0)) args = .ok (id, site.signature.params.zip args) :=
  if_pos count

/-- A call whose target or number of arguments is wrong converts no argument. -/
theorem prepare_of_refused {fault : Fault} (refused : site.arguments target args = .error fault) :
    site.prepare machine target args = (.error fault, []) := by
  rw [prepare, refused]

theorem Prepared.prepare {id : ObjectId} {raws : List Raw}
    (prepared : site.Prepared machine target args id raws) :
    site.prepare machine target args = (.ok (id, raws), site.signature.params.zip args) := by
  simp only [CallSite.prepare, prepared.refers, arguments_of_object id prepared.count,
    prepared.escaped.escapeAll]
  rfl

theorem execute_of_refused {fault : Fault} {asked : List Argument}
    (refused : site.prepare machine target args = (.error fault, asked)) (invoke : Invoke)
    (thread : ThreadId) (pointer : UInt64) :
    site.execute invoke thread machine target args pointer =
      { result := .error fault, machine, asked } := by
  rw [execute, refused]

/-- A call that has its stack crosses the boundary. -/
theorem Prepared.execute {id : ObjectId} {raws : List Raw} {thread : ThreadId} {stack : Stack}
    {ready : Machine} (prepared : site.Prepared machine target args id raws)
    (granted : (Machine.stackFor thread).on machine = (.ok stack, ready)) (invoke : Invoke)
    (pointer : UInt64) :
    site.execute invoke thread machine target args pointer =
      { site.conclude (cross invoke thread stack pointer id raws ready) with
        asked := site.signature.params.zip args } := by
  rw [CallSite.execute, prepared.prepare, granted]

/-- A call that is refused a stack leaves the machine as it was. -/
theorem Prepared.execute_of_stackless {id : ObjectId} {raws : List Raw} {thread : ThreadId}
    {fault : Fault} {after : Machine} (prepared : site.Prepared machine target args id raws)
    (refused : (Machine.stackFor thread).on machine = (.error fault, after)) (invoke : Invoke)
    (pointer : UInt64) :
    site.execute invoke thread machine target args pointer =
      { result := .error fault, machine, asked := site.signature.params.zip args } := by
  rw [CallSite.execute, prepared.prepare, refused, (Machine.stackFor_eq_error refused).1]

theorem prepare_cases_of_count {id : ObjectId} (refers : target = .address (.object id 0))
    (count : args.length = site.arity) :
    (∃ raws, site.Prepared machine target args id raws) ∨ site.Stops machine target args := by
  obtain ⟨raws, escaped⟩ | ⟨done, argument, rest, raws, fault, split, escaped, refused, all⟩ :=
    site.escapeAll_cases machine [] (site.signature.params.zip args)
  · exact .inl ⟨raws, refers, count, escaped⟩
  · refine .inr ⟨fault, done ++ [argument], ?_, fun invoke thread pointer => ?_⟩
    · simp only [prepare, refers, arguments_of_object id count, all]
      rfl
    · exact .unescaped refers count split escaped refused

/-- What a call comes to before it asks for a stack: it is prepared, or it stops with the fault of
the first thing that is wrong. -/
theorem prepare_cases (site : CallSite) (machine : Machine) (target : Value) (args : List Value) :
    (∃ id raws, site.Prepared machine target args id raws) ∨ site.Stops machine target args := by
  obtain ⟨id, refers, found⟩ | ⟨id, offset, refers, moved, found⟩ | ⟨other, found⟩ :=
    callee_cases target
  · by_cases count : args.length = site.arity
    · obtain prepared | stops := prepare_cases_of_count refers count
      · exact .inl ⟨id, prepared⟩
      · exact .inr stops
    · have refused : site.arguments target args =
          .error (.operand "execute" (.argumentCount site.arity args.length)) := by
        rw [refers]
        exact if_neg count
      exact .inr ⟨_, _, prepare_of_refused refused, fun _ _ _ => .miscounted refers count⟩
  · exact .inr ⟨_, _, prepare_of_refused (arguments_of_callee found),
      fun _ _ _ => .displaced refers moved⟩
  · exact .inr ⟨_, _, prepare_of_refused (arguments_of_callee found),
      fun _ _ _ => .notCallable other⟩

/-- Nothing that a call does on its way back adds to what was reported. -/
theorem conclude_notes (site : CallSite) (reply : Reply ForeignFault Raw) :
    (site.conclude reply).notes = reply.notes := by
  rw [conclude]
  split <;> rfl

/-- A call that is refused a stack has found none and no room for one, or it is abandoned. -/
theorem Prepared.outcome_of_stackless {id : ObjectId} {raws : List Raw} {thread : ThreadId}
    {fault : Fault} {after : Machine} (prepared : site.Prepared machine target args id raws)
    (refused : (Machine.stackFor thread).on machine = (.error fault, after)) (invoke : Invoke)
    (pointer : UInt64) :
    site.Outcome invoke thread machine target args pointer
      { result := .error fault, machine, asked := site.signature.params.zip args } [] := by
  obtain ⟨_, absent, full⟩ := Machine.stackFor_eq_error refused
  obtain rfl | ⟨start, rfl⟩ := NativeMemory.allocate_eq_error full
  · exact .overflowed prepared absent full
  · exact .stackless prepared absent full

/-- A foreign call is all or nothing up to the boundary. What becomes of it is one of the outcomes,
and `called` holds the arguments of the invocations it makes: if every invocation is reported, these
are the reports that come to those of the callee. -/
theorem execute_all_or_nothing (site : CallSite) (invoke : Invoke) (thread : ThreadId)
    (machine : Machine) (target : Value) (args : List Value) (pointer : UInt64) :
    ∃ called, site.Outcome invoke thread machine target args pointer
        (site.execute invoke thread machine target args pointer) called ∧
      (site.execute invoke.reported thread machine target args pointer).notes =
        called.map .arguments ++
          (site.execute invoke thread machine target args pointer).notes := by
  obtain ⟨id, raws, prepared⟩ | ⟨fault, asked, refused, stops⟩ :=
    site.prepare_cases machine target args
  · rcases found : (Machine.stackFor thread).on machine with ⟨fault | stack, ready⟩
    · refine ⟨[], ?_, ?_⟩
      · rw [prepared.execute_of_stackless found]
        exact prepared.outcome_of_stackless found invoke pointer
      · rw [prepared.execute_of_stackless found, prepared.execute_of_stackless found]
        rfl
    · have granted := Machine.grants_of_stackFor found
      refine ⟨[raws], ?_, ?_⟩
      · rw [prepared.execute found, conclude]
        cases result : (cross invoke thread stack pointer id raws ready).result with
        | error fault => exact .failed prepared granted rfl result
        | ok raw => exact .answered prepared granted rfl result rfl
      · rw [prepared.execute found, prepared.execute found]
        dsimp only
        rw [conclude_notes, conclude_notes]
        rfl
  · refine ⟨[], ?_, ?_⟩
    · rw [execute_of_refused refused]
      exact stops invoke thread pointer
    · rw [execute_of_refused refused, execute_of_refused refused]
      rfl

/-- Eight bytes of memory at the last multiple of sixteen, stacks of eight bytes, and an object that
answers every call. -/
def lastPlace : Machine :=
  { Machine.start { memoryBase := 0xfffffffffffffff0, memorySize := 8, stackSize := 8 } with
    objects := { objects := #[{ text := "ready", execute := fun _ => .finish (.ok .null) }] } }

/-- The thread has no stack, and memory has room for one. The call has nothing else against it, and
still it is abandoned, and the object is not invoked. -/
theorem call_with_room_for_stack_is_abandoned :
    Machine.new lastPlace.config = .ok (.start lastPlace.config) ∧ lastPlace.memory.Sound ∧
    Prepared { signature := ⟨[], .void⟩ } lastPlace (.address (.object ⟨0⟩ 0)) [] ⟨0⟩ [] ∧
    lastPlace.stack? 0 = none ∧
    lastPlace.memory.RoomFor lastPlace.config.stackSize.toNat Machine.stackAlignment ∧
    ∀ invoke, (execute { signature := ⟨[], .void⟩ } invoke 0 lastPlace (.address (.object ⟨0⟩ 0)) []
      0xfffffffffffffff8) = { result := .error .overflow, machine := lastPlace, asked := [] } :=
  ⟨rfl, ⟨by decide, by decide, by decide⟩, ⟨rfl, rfl, .nil⟩, rfl, by decide, fun _ => rfl⟩

end CallSite

end IrMachine
