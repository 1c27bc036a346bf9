import IrMachine.Foreign.Body
import IrMachine.Proofs.Foreign.Answer
import IrMachine.Proofs.Foreign.Outcome
import IrMachine.Proofs.VarInt

/-!
# Values that survive the foreign boundary

Foreign code knows fewer kinds of values than the program: all integers become one kind of number, a
null pointer and a null function become the same null, and a boxed number looks like a plain one.
The declared type decides what comes back. `Value.Survives` lists the values that come back at their
own type, and what they come back as, which is the value itself for all but globals; for those it is
the place they have. `Value.Survives.accept_escape` is the trip there and back, and by
`CallSite.identity_returns_argument` it is also what a call of a foreign identity function gives.
-/

namespace IrMachine

/-- A value of a type that is the same on both sides of the boundary. -/
inductive Value.Matches : Ty → Value → Prop where
  | i1 (value : Bool) : Matches (.int 1) (.scalar (.i1 value))
  | i8 (value : Int8) : Matches (.int 8) (.scalar (.i8 value))
  | i16 (value : Int16) : Matches (.int 16) (.scalar (.i16 value))
  | i32 (value : Int32) : Matches (.int 32) (.scalar (.i32 value))
  | i64 (value : Int64) : Matches (.int 64) (.scalar (.i64 value))
  /-- An integer of any other width that fits a word. -/
  | varInt {value : VarInt} (canonical : value.Canonical) (narrow : value.width ≤ 64)
      (other : value.width ∉ [1, 8, 16, 32, 64]) :
      Matches (.int value.width) (.scalar (.varInt value))
  | double (value : Double) : Matches .double (.scalar (.double value))
  | function (result : Ty) (params : List Ty) (varargs : Bool) (pointer : UInt64) :
      Matches (.function result params varargs) (.scalar (.function pointer))
  | native (location : UInt64) : Matches .pointer (.address (.native location))
  | boxed (value : Boxed) : Matches .pointer (.address (.boxed value))
  | object (id : ObjectId) : Matches .pointer (.address (.object id 0))

/-- A value of a type and what it is when it has crossed the boundary and come back. -/
inductive Value.Survives (machine : Machine) : Ty → Value → Value → Prop where
  | same {ty : Ty} {value : Value} (agrees : value.Matches ty) : Survives machine ty value value
  /-- A global comes back as the place it has. -/
  | global {id : GlobalId} {location : UInt64} (placed : machine.resolve id = .ok location) :
      Survives machine .pointer (.address (.global id)) (.address (.native location))

theorem IntWidth.ofBits?_eq_none {bits : Nat} (other : bits ∉ [1, 8, 16, 32, 64]) :
    ofBits? bits = none := by
  rw [ofBits?] <;> rintro rfl <;> exact other (by decide)

namespace Raw

/-- The declared type changes a foreign form only in pointer position. -/
theorem inPosition_of_ne {ty : Ty} (different : ty ≠ .pointer) (raw : Raw) :
    raw.inPosition ty = raw := by
  cases raw with
  | int value => exact if_neg different
  | _ => rfl

/-- A number at an integer type is cut to the width. -/
theorem accept_int (objects : ObjectTable) (bits : Nat) (value : Int64) :
    (int value).accept objects (.int bits) = (.ok (.scalar (.ofInt64 bits value)), objects) := by
  rw [accept, toInteger_eq]
  rfl

end Raw

namespace Value

variable {machine : Machine} {ty : Ty} {value back : Value}

/-- A scalar whose foreign form is a number escapes as that number, whatever integer type it is
declared with. -/
theorem escape_of_int {resolve : GlobalId → Except Fault UInt64} {scalar : Scalar} {number : Int64}
    (escapes : scalar.escape = .ok (.int number)) (bits : Nat) :
    (Value.scalar scalar).escape resolve (.int bits) = .ok (.int number) := by
  rw [escape, escapes]
  exact congrArg Except.ok (Raw.inPosition_of_ne (fun same => by cases same) (.int number))

theorem Matches.accept_escape (agrees : value.Matches ty)
    (resolve : GlobalId → Except Fault UInt64) :
    ∃ raw, value.escape resolve ty = .ok raw ∧
      ∀ objects, raw.accept objects ty = (.ok value, objects) := by
  cases agrees with
  | i1 value =>
      refine ⟨.bool value, rfl, fun objects => ?_⟩
      cases value <;> rfl
  | i8 value =>
      refine ⟨.int value.toInt64, escape_of_int rfl 8, fun objects => ?_⟩
      rw [Raw.accept_int]
      simp [Scalar.ofInt64, IntWidth.ofBits?]
  | i16 value =>
      refine ⟨.int value.toInt64, escape_of_int rfl 16, fun objects => ?_⟩
      rw [Raw.accept_int]
      simp [Scalar.ofInt64, IntWidth.ofBits?]
  | i32 value =>
      refine ⟨.int value.toInt64, escape_of_int rfl 32, fun objects => ?_⟩
      rw [Raw.accept_int]
      simp [Scalar.ofInt64, IntWidth.ofBits?]
  | i64 value =>
      exact ⟨.int value, escape_of_int rfl 64, fun objects => Raw.accept_int objects 64 value⟩
  | @varInt value canonical narrow other =>
      have escapes : (Scalar.varInt value).escape = .ok (.int value.toInt64) := if_pos narrow
      refine ⟨.int value.toInt64, escape_of_int escapes value.width, fun objects => ?_⟩
      rw [Raw.accept_int, Scalar.ofInt64, IntWidth.ofBits?_eq_none other,
        canonical.ofInt64_toInt64 narrow]
  | double value => exact ⟨.float value, rfl, fun objects => rfl⟩
  | function result params varargs pointer =>
      by_cases null : pointer = 0
      · subst null
        exact ⟨.null, rfl, fun objects => rfl⟩
      · refine ⟨.pointer pointer, ?_, fun objects => rfl⟩
        rw [escape, Scalar.escape, if_neg null]
        rfl
  | native location =>
      by_cases null : location = 0
      · subst null
        exact ⟨.null, rfl, fun objects => rfl⟩
      · refine ⟨.pointer location, ?_, fun objects => rfl⟩
        rw [escape, Address.escape, if_neg null]
  | boxed value =>
      cases value with
      | int value => exact ⟨.int value, rfl, fun objects => rfl⟩
      | float value => exact ⟨.float value, rfl, fun objects => rfl⟩
      | bool value => exact ⟨.bool value, rfl, fun objects => rfl⟩
  | object id => exact ⟨.object id, rfl, fun objects => rfl⟩

/-- The trip over the boundary and back. No object is made on the way. -/
theorem Survives.accept_escape (survives : Survives machine ty value back) :
    ∃ raw, value.escape machine.resolve ty = .ok raw ∧
      ∀ objects, raw.accept objects ty = (.ok back, objects) := by
  cases survives with
  | same agrees => exact agrees.accept_escape machine.resolve
  | @global id location placed =>
      refine ⟨.pointer location, ?_, fun objects => rfl⟩
      rw [escape, Address.escape, placed]
      rfl

end Value

/-- Among the objects of a machine, one that answers a call with its only argument, whatever else it
does. -/
def Invoke.IsIdentity (invoke : Invoke) (machine : Machine) (id : ObjectId) : Prop :=
  ∀ raw current, current.objects = machine.objects → (invoke id [raw] current).result = .ok raw

namespace Machine

/-- The thread has a stack, or there is room for one. -/
def CanHaveStack (machine : Machine) (thread : ThreadId) : Prop :=
  (machine.stack? thread).isSome ∨
    ∃ granted, machine.memory.allocate machine.config.stackSize.toNat stackAlignment = .ok granted

theorem CanHaveStack.stackFor {machine : Machine} {thread : ThreadId}
    (able : machine.CanHaveStack thread) :
    ∃ stack ready, (Machine.stackFor thread).on machine = (.ok stack, ready) ∧
      ready.objects = machine.objects := by
  obtain ⟨memory, threadStacks, kept⟩ := machine.stackFor_frame thread
  rcases asked : (Machine.stackFor thread).on machine with ⟨fault | stack, ready⟩
  · obtain ⟨_, absent, full⟩ := stackFor_eq_error asked
    obtain present | ⟨granted, room⟩ := able
    · rw [absent] at present
      cases present
    · rw [full] at room
      cases room
  · rw [asked] at kept
    exact ⟨stack, ready, rfl, (congrArg Machine.objects kept :)⟩

/-- Foreign code that hands out its argument and does nothing else is an identity function. -/
theorem invoke_isIdentity {machine : Machine} {id : ObjectId}
    (plain : ∀ raw, (machine.objects.get id).execute [raw] = .finish (.ok raw)) (thread : ThreadId)
    (depth : Nat) : (invoke thread (depth + 1)).IsIdentity machine id := by
  intro raw current same
  show (((current.objects.get id).execute [raw]).run (invoke thread depth) thread
    current).result = .ok raw
  rw [same, plain raw]
  rfl

end Machine

namespace CallSite

variable {invoke : Invoke} {machine : Machine} {id : ObjectId} {thread : ThreadId}

/-- A call of an identity function gives what its argument is after a trip over the boundary. -/
theorem identity_returns_argument (identity : invoke.IsIdentity machine id)
    (able : machine.CanHaveStack thread) {ty : Ty} {value back : Value}
    (survives : value.Survives machine ty back) (pointer : UInt64) :
    (execute { signature := ⟨[ty], ty⟩ } invoke thread machine (.address (.object id 0)) [value]
      pointer).result = .ok back := by
  obtain ⟨raw, escaped, accepted⟩ := survives.accept_escape
  obtain ⟨stack, ready, granted, objects⟩ := able.stackFor
  have prepared : Prepared { signature := ⟨[ty], ty⟩ } machine (.address (.object id 0)) [value] id
      [raw] := ⟨rfl, rfl, .cons escaped .nil⟩
  have answered : (cross invoke thread stack pointer id [raw] ready).result = .ok raw :=
    identity raw _ objects
  rw [prepared.execute granted, conclude, answered]
  change Except.mapError Fault.foreign (raw.accept _ ty).1 = .ok back
  rw [accepted]
  rfl

end CallSite

namespace Value

/-- Values survive the foreign boundary. A value that matches its declared type escapes, and its
foreign form is taken for the same value at that type, or for the place that a global has; so that
is what a call of an identity function gives, wherever the thread can have a stack. What has no
place on the other side does not escape: integers that are too wide, references that were moved
away from their object, and addresses of managed buffers. -/
theorem survives_the_boundary (machine : Machine) :
    (∀ ty value back, Survives machine ty value back →
      (∃ raw, value.escape machine.resolve ty = .ok raw ∧
        ∀ objects, raw.accept objects ty = (.ok back, objects)) ∧
      ∀ (invoke : Invoke) (thread : ThreadId) (id : ObjectId) (pointer : UInt64),
        invoke.IsIdentity machine id → machine.CanHaveStack thread →
        (CallSite.execute { signature := ⟨[ty], ty⟩ } invoke thread machine
          (.address (.object id 0)) [value] pointer).result = .ok back) ∧
    (∀ (value : VarInt) (ty : Ty), 64 < value.width →
      (scalar (.varInt value)).escape machine.resolve ty =
        .error (.foreign (.unsupportedType (.tooWide value.width)))) ∧
    (∀ (id : ObjectId) (offset : Int64) (ty : Ty), offset ≠ 0 →
      (address (.object id offset)).escape machine.resolve ty =
        .error (.foreign (.unsupportedType (.displaced offset)))) ∧
    ∀ (id : BufferId) (offset : Int64) (ty : Ty),
      (address (.buffer id offset)).escape machine.resolve ty =
        .error (.foreign (.unsupportedType .buffer)) := by
  refine ⟨?_, ?_, ?_, fun _ _ _ => rfl⟩
  · intro ty value back survives
    exact ⟨survives.accept_escape, fun _ _ _ pointer identity able =>
      CallSite.identity_returns_argument identity able survives pointer⟩
  · intro value ty wide
    rw [escape, Scalar.escape, if_neg (by omega)]
    rfl
  · intro id offset ty moved
    rw [escape, Address.escape, if_neg moved]

/-- A machine with a foreign identity function, and a global at the very first address. -/
def sampleMachine : Machine :=
  { Machine.start { memoryBase := 0x100, memorySize := 64, stackSize := 16 } with
    locations := ⟨[(⟨0⟩, 0x100)]⟩
    objects := { objects := #[.function "identity" 1
      (Body.script { answer := .argument 0 })] } }

/-- A negative number of 12 bits comes back from the identity function, and the global comes back as
its place. -/
theorem sample_survives :
    (CallSite.execute { signature := ⟨[.int 12], .int 12⟩ } (Machine.invoke 0 1) 0 sampleMachine
      (.address (.object ⟨0⟩ 0)) [.scalar (.varInt (.ofInt64 12 (-2)))] 0x110).result =
        .ok (.scalar (.varInt (.ofInt64 12 (-2)))) ∧
    (CallSite.execute { signature := ⟨[.pointer], .pointer⟩ } (Machine.invoke 0 1) 0 sampleMachine
      (.address (.object ⟨0⟩ 0)) [.address (.global ⟨0⟩)] 0x110).result =
        .ok (.address (.native 0x100)) ∧
    (scalar (.varInt (.ofInt64 65 (-2)))).escape sampleMachine.resolve .pointer =
      .error (.foreign (.unsupportedType (.tooWide 65))) := by
  have identity : (Machine.invoke 0 1).IsIdentity sampleMachine ⟨0⟩ :=
    Machine.invoke_isIdentity (fun _ => rfl) 0 0
  have able : sampleMachine.CanHaveStack 0 := .inr ⟨_, rfl⟩
  obtain ⟨survives, wide, _⟩ := survives_the_boundary sampleMachine
  have number := survives _ _ _
    (.same (.varInt (VarInt.canonical_ofInt64 12 (-2)) (by decide) (by decide)))
  have global := survives _ _ _ (.global (show sampleMachine.resolve ⟨0⟩ = .ok 0x100 from rfl))
  exact ⟨number.2 _ _ _ _ identity able, global.2 _ _ _ _ identity able, wide _ _ (by decide)⟩

end Value

end IrMachine
