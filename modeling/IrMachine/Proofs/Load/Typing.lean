import IrMachine.Proofs.Foreign.Answer
import IrMachine.Proofs.Load.Caching

/-!
# What loads give

A load that succeeds gives a value of the kind that was asked for (`LoadKind.Loads.yields`), a
combination without a rule is a fault whatever the address holds (`LoadKind.select_of_undefined`),
and a foreign answer to a load of an integer that carries its width is never turned down for not
being an integer after it has been converted (`LoadKind.load_varInt_object`). Caches make no
difference to any of it, so `LoadSite.loads_are_type_sound` has all three for sites of any history.
-/

namespace IrMachine

/-- Bytes are read as a scalar of the kind that was asked for. -/
theorem ScalarKind.kind_decode (kind : ScalarKind) (bytes : Bytes) :
    (kind.decode bytes).kind = kind := by
  cases kind with
  | int width => cases width <;> rfl
  | _ => rfl

namespace LoadKind

/-- The combinations of a kind of load and a representation that have no rule. -/
inductive Undefined : LoadKind → AddressKind → Prop where
  | aggregateGlobal : Undefined aggregate .global
  | buffer {kind : LoadKind} (other : kind ≠ address) : Undefined kind .buffer
  | boxed {kind : LoadKind} (other : kind ≠ address) : Undefined kind .boxed
  | intObject (width : IntWidth) : Undefined (scalar (.int width)) .object
  | floatObject : Undefined (scalar .float) .object
  | doubleObject : Undefined (scalar .double) .object
  | float80Object : Undefined (scalar .float80) .object

theorem select_of_undefined {kind : LoadKind} {address : AddressKind}
    (undefined : kind.Undefined address) : kind.select address = .error (kind.noRule address) := by
  cases undefined with
  | buffer other =>
      cases kind with
      | scalar kind => rfl
      | address => exact absurd rfl other
      | aggregate => rfl
  | boxed other =>
      cases kind with
      | scalar kind => rfl
      | address => exact absurd rfl other
      | aggregate => rfl
  | _ => rfl

/-- A value is one that a load of a kind may give for an address. -/
def Yields (kind : LoadKind) (machine : Machine) (source : Address) (value : Value) : Prop :=
  match kind with
  | scalar .function =>
      (∃ pointer, value = .scalar (.function pointer)) ∨
        -- A foreign object may answer with another object in place of a handle.
        ∃ id offset callee, source = .object id offset ∧
          (machine.objects.get id).read offset (scalar .function).byteSize = .ok (.object callee) ∧
          value = .address (.object callee 0)
  | scalar kind => ∃ number, value = .scalar number ∧ number.kind = kind
  | address => ∃ address, value = .address address
  | aggregate => value = .address source

theorem yields_scalar {kind : ScalarKind} {number : Scalar} (same : number.kind = kind)
    (machine : Machine) (source : Address) :
    (scalar kind).Yields machine source (.scalar number) := by
  cases kind with
  | function =>
      cases number with
      | function pointer => exact .inl ⟨pointer, rfl⟩
      | _ => cases same
  | _ => exact ⟨number, rfl, same⟩

/-- A scalar is made of as many bytes as its type has. -/
theorem readNative_scalar_eq_map (kind : ScalarKind) (memory : NativeMemory) (location : UInt64) :
    (LoadKind.scalar kind).readNative memory location =
      (memory.read location kind.ty.byteSize).map fun bytes => .scalar (kind.decode bytes) := by
  show ((memory.read location kind.ty.byteSize).map _).map _ = _
  cases memory.read location kind.ty.byteSize <;> rfl

/-- What native memory holds is read as a value of the kind. -/
theorem readNative_yields {kind : LoadKind} (simple : kind ≠ aggregate) {machine : Machine}
    {location : UInt64} {value : Value}
    (loaded : kind.readNative machine.memory location = .ok value) (source : Address) :
    kind.Yields machine source value := by
  cases kind with
  | scalar kind =>
      obtain ⟨number, found, rfl⟩ := map_eq_ok_iff.mp loaded
      obtain ⟨bytes, _, rfl⟩ := map_eq_ok_iff.mp found
      exact yields_scalar (kind.kind_decode bytes) machine source
  | address =>
      obtain ⟨pointer, _, rfl⟩ := map_eq_ok_iff.mp loaded
      exact ⟨.native pointer, rfl⟩
  | aggregate => exact absurd rfl simple

/-- What a load of an integer that carries its width makes of a foreign answer: the number that the
answer stands for, cut to the width. -/
def varIntAnswer (bits : Nat) : Except ForeignFault Raw → Except Fault Value
  | .error fault => .error (.foreign fault)
  | .ok (.int value) => .ok (.scalar (.varInt (.ofInt64 bits value)))
  | .ok (.bool value) => .ok (.scalar (.varInt (.ofInt64 bits (if value then 1 else 0))))
  | .ok (.float value) => .ok (.scalar (.varInt (.ofInt64 bits value.toInt64)))
  | .ok (.pointer location) => .ok (.scalar (.varInt (.ofInt64 bits location.toInt64)))
  | .ok .null => .ok (.scalar (.varInt (.ofInt64 bits 0)))
  | .ok (.string _) =>
      .error (.foreign (.unsupportedType (.noConversion "string" (.int bits))))
  | .ok (.object _) =>
      .error (.foreign (.unsupportedType (.noConversion "object" (.int bits))))

/-- The number goes through a register of the width and comes out as it went in. -/
theorem fromForeign_ofInt64 (bits : Nat) (value : Int64) :
    (scalar (.varInt bits)).fromForeign (.scalar (.ofInt64 bits value)) =
      .ok (.scalar (.varInt (.ofInt64 bits value))) := by
  have wide : (Value.scalar (.ofInt64 bits value)).toVarInt? bits = some (.ofInt64 bits value) :=
    Scalar.toVarInt?_ofInt64 bits value
  rw [fromForeign, wide]

theorem load_varInt_object (bits : Nat) (machine : Machine) (id : ObjectId) (offset : Int64) :
    ((scalar (.varInt bits)).load machine (.object id offset)).1 =
      varIntAnswer bits ((machine.objects.get id).read offset (Ty.int bits).byteSize) := by
  have loaded : ((scalar (.varInt bits)).load machine (.object id offset)).1 =
      (ForeignRead.execute ⟨.int bits⟩ machine.objects id offset).1.bind
        (scalar (.varInt bits)).fromForeign := rfl
  rw [loaded]
  cases answer : (machine.objects.get id).read offset (Ty.int bits).byteSize with
  | error fault =>
      rw [ForeignRead.execute_of_error answer]
      rfl
  | ok raw =>
      have accepted : (raw.accept machine.objects (.int bits)).1 =
          ((raw.toInt64 (.int bits)).map (Scalar.ofInt64 bits)).map .scalar := by
        rw [← Raw.toInteger_eq]
        rfl
      rw [ForeignRead.execute_of_ok answer, accepted]
      cases raw with
      | null => exact fromForeign_ofInt64 bits 0
      | bool value => exact fromForeign_ofInt64 bits _
      | int value => exact fromForeign_ofInt64 bits value
      | float value => exact fromForeign_ofInt64 bits _
      | pointer location => exact fromForeign_ofInt64 bits _
      | string value => rfl
      | object id => rfl

theorem varIntAnswer_eq_ok {bits : Nat} {answer : Except ForeignFault Raw} {value : Value}
    (taken : varIntAnswer bits answer = .ok value) :
    ∃ number, value = .scalar number ∧ number.kind = .varInt bits := by
  unfold varIntAnswer at taken
  split at taken <;> cases taken <;> exact ⟨_, rfl, rfl⟩

/-- A load of a function or an address from an object gives what a typed read of it gives. -/
theorem load_object {kind : LoadKind} (plain : kind = scalar .function ∨ kind = address)
    (machine : Machine) (id : ObjectId) (offset : Int64) :
    (kind.load machine (.object id offset)).1 =
      (ForeignRead.execute ⟨kind.ty⟩ machine.objects id offset).1 := by
  have loaded : (kind.load machine (.object id offset)).1 =
      (ForeignRead.execute ⟨kind.ty⟩ machine.objects id offset).1.bind .ok := by
    obtain rfl | rfl := plain
    · rfl
    · rfl
  rw [loaded]
  cases (ForeignRead.execute ⟨kind.ty⟩ machine.objects id offset).1 with
  | error fault => rfl
  | ok value => rfl

/-- The ways in which a load comes by its result. -/
inductive Loads (machine : Machine) : LoadKind → Address → Except Fault Value → Prop where
  | undefined {kind : LoadKind} {source : Address} (undefined : kind.Undefined source.kind) :
      Loads machine kind source (.error (kind.noRule source.kind))
  | byReference (source : Address) : Loads machine aggregate source (.ok (.address source))
  | native {kind : LoadKind} (source : Address) (simple : kind ≠ aggregate) :
      Loads machine kind source ((source.toNative machine).bind (kind.readNative machine.memory))
  | buffer (id : BufferId) (offset : Int64) :
      Loads machine address (.buffer id offset)
        (((machine.buffer id).readInt64 offset).map fun value =>
          .address (.native value.toUInt64))
  | object {kind : LoadKind} (id : ObjectId) (offset : Int64)
      (plain : kind = scalar .function ∨ kind = address) :
      Loads machine kind (.object id offset)
        (ForeignRead.execute ⟨kind.ty⟩ machine.objects id offset).1
  | varInt (bits : Nat) (id : ObjectId) (offset : Int64) :
      Loads machine (scalar (.varInt bits)) (.object id offset)
        (varIntAnswer bits ((machine.objects.get id).read offset (Ty.int bits).byteSize))

theorem load_loads (kind : LoadKind) (machine : Machine) (source : Address) :
    Loads machine kind source (kind.load machine source).1 := by
  cases source with
  | native location =>
      cases kind with
      | aggregate => exact .byReference _
      | _ => exact .native (.native location) nofun
  | global id =>
      cases kind with
      | aggregate => exact .undefined .aggregateGlobal
      | _ => exact .native (.global id) nofun
  | buffer id offset =>
      cases kind with
      | address => exact .buffer id offset
      | _ => exact .undefined (.buffer nofun)
  | boxed primitive =>
      cases kind with
      | address => exact .native (.boxed primitive) nofun
      | _ => exact .undefined (.boxed nofun)
  | object id offset =>
      cases kind with
      | aggregate => exact .byReference _
      | address =>
          rw [load_object (.inr rfl)]
          exact .object id offset (.inr rfl)
      | scalar kind =>
          cases kind with
          | varInt bits =>
              rw [load_varInt_object]
              exact .varInt bits id offset
          | function =>
              rw [load_object (.inl rfl)]
              exact .object id offset (.inl rfl)
          | int width => exact .undefined (.intObject width)
          | float => exact .undefined .floatObject
          | double => exact .undefined .doubleObject
          | float80 => exact .undefined .float80Object

/-- A load that succeeds gives a value of its kind. -/
theorem Loads.yields {kind : LoadKind} {machine : Machine} {source : Address} {value : Value}
    (loaded : Loads machine kind source (.ok value)) : kind.Yields machine source value := by
  generalize outcome : Except.ok value = result at loaded
  cases loaded with
  | undefined => cases outcome
  | byReference => cases outcome; rfl
  | native _ simple =>
      obtain ⟨location, _, found⟩ := bind_eq_ok_iff.mp outcome.symm
      exact readNative_yields simple found source
  | buffer id offset =>
      obtain ⟨stored, _, rfl⟩ := map_eq_ok_iff.mp outcome.symm
      exact ⟨_, rfl⟩
  | object id offset plain =>
      obtain ⟨raw, answered, accepted⟩ := ForeignRead.execute_eq_ok_iff.mp outcome.symm
      obtain rfl | rfl := plain
      · obtain handle | ⟨callee, rfl, rfl⟩ := Raw.toFunction_eq_ok accepted
        · exact .inl handle
        · exact .inr ⟨id, offset, callee, rfl, answered, rfl⟩
      · cases accepted
        exact ⟨_, rfl⟩
  | varInt bits id offset => exact varIntAnswer_eq_ok outcome.symm

theorem readNative_eq_error {kind : LoadKind} {memory : NativeMemory} {location : UInt64}
    {fault : Fault} (failed : kind.readNative memory location = .error fault) :
    ∃ size, fault = .memory location size := by
  have refused : ∃ length, memory.read location length = .error fault := by
    cases kind with
    | scalar kind => exact ⟨_, map_eq_error_iff.mp (map_eq_error_iff.mp failed)⟩
    | address => exact ⟨_, map_eq_error_iff.mp (map_eq_error_iff.mp failed)⟩
    | aggregate => cases failed
  obtain ⟨length, outside⟩ := refused
  rw [NativeMemory.read] at outside
  split at outside
  · cases outside
  · cases outside
    exact ⟨length, rfl⟩

theorem toNative_ne_notAnInteger (machine : Machine) (source : Address) (operation name : String) :
    source.toNative machine ≠ .error (.operand operation (.notAnInteger name)) := by
  intro failed
  cases source with
  | global id =>
      rw [Address.toNative, Machine.resolve] at failed
      split at failed <;> cases failed
  | boxed primitive => cases primitive <;> cases failed
  | _ => cases failed

/-- No load finds, after the conversion of a foreign answer, that it is not an integer. -/
theorem Loads.ne_notAnInteger {kind : LoadKind} {machine : Machine} {source : Address}
    {result : Except Fault Value} (loaded : Loads machine kind source result)
    (operation name : String) : result ≠ .error (.operand operation (.notAnInteger name)) := by
  intro outcome
  cases loaded with
  | undefined => cases outcome
  | byReference => cases outcome
  | native =>
      obtain unplaced | ⟨location, _, unread⟩ := bind_eq_error_iff.mp outcome
      · exact toNative_ne_notAnInteger machine source operation name unplaced
      · obtain ⟨size, memoryFault⟩ := readNative_eq_error unread
        cases memoryFault
  | buffer id offset =>
      have refused := map_eq_error_iff.mp (map_eq_error_iff.mp outcome)
      rw [Buffer.read] at refused
      split at refused <;> cases refused
  | object id offset =>
      obtain ⟨inner, foreignFault⟩ := ForeignRead.execute_eq_error outcome
      cases foreignFault
  | varInt bits id offset =>
      unfold varIntAnswer at outcome
      split at outcome <;> cases outcome

end LoadKind

namespace LoadSite

/-- Loads are type-sound. After any history, a site that gives a value gives one of its kind; where
there is no rule it gives that fault, whatever the address holds, and stands in no value of its own;
and a load of an integer that carries its width gives exactly what the foreign answer comes to, so
that no converted answer is ever found not to be an integer. -/
theorem loads_are_type_sound (kind : LoadKind) (history : List (Machine × Address))
    (machine : Machine) (source : Address) :
    (∀ value, ((after { kind } history).execute machine source).1 = .ok value →
      kind.Yields machine source value) ∧
    (kind.Undefined source.kind →
      ((after { kind } history).execute machine source).1 =
        .error (.operand ("load " ++ kind.text) (.noLoadRule source.kind))) ∧
    (∀ bits id offset, kind = .scalar (.varInt bits) → source = .object id offset →
      ((after { kind } history).execute machine source).1 =
        LoadKind.varIntAnswer bits ((machine.objects.get id).read offset kind.byteSize)) ∧
    ∀ operation name, ((after { kind } history).execute machine source).1 ≠
      .error (.operand operation (.notAnInteger name)) := by
  have loads := kind.load_loads machine source
  rw [(execute_after kind history machine source).1]
  refine ⟨?_, ?_, ?_, loads.ne_notAnInteger⟩
  · intro value loaded
    rw [loaded] at loads
    exact loads.yields
  · intro undefined
    rw [LoadKind.load, LoadKind.select_of_undefined undefined]
    rfl
  · rintro bits id offset rfl rfl
    exact LoadKind.load_varInt_object bits machine id offset

def boxingMachine : Machine :=
  { sampleMachine with objects := { objects := #[.box (fun _ => "") (.pointer 0x1FF)] } }

/-- A site that has loaded from memory before is given the low byte of the pointer by the object,
and a load of an extended float finds no rule for it. -/
theorem sample_typed :
    ((after { kind := .scalar (.varInt 8) } sampleHistory).execute boxingMachine
        (.object ⟨0⟩ 0)).1 = .ok (.scalar (.varInt ⟨8, [0xFF]⟩)) ∧
      (LoadKind.scalar (.varInt 8)).Yields boxingMachine (.object ⟨0⟩ 0)
        (.scalar (.varInt ⟨8, [0xFF]⟩)) ∧
      (LoadKind.scalar .float80).Undefined .object ∧
      ((after { kind := .scalar .float80 } sampleHistory).execute boxingMachine
        (.object ⟨0⟩ 0)).1 = .error (.operand "load x86_fp80" (.noLoadRule .object)) := by
  obtain ⟨sound, _, answered, _⟩ :=
    loads_are_type_sound (.scalar (.varInt 8)) sampleHistory boxingMachine (.object ⟨0⟩ 0)
  obtain ⟨_, unruled, _⟩ :=
    loads_are_type_sound (.scalar .float80) sampleHistory boxingMachine (.object ⟨0⟩ 0)
  have given : ((after { kind := .scalar (.varInt 8) } sampleHistory).execute boxingMachine
      (.object ⟨0⟩ 0)).1 = .ok (.scalar (.varInt ⟨8, [0xFF]⟩)) :=
    answered 8 ⟨0⟩ 0 rfl rfl
  exact ⟨given, sound _ given, .float80Object, unruled .float80Object⟩

end LoadSite

end IrMachine
