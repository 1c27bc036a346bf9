import IrMachine.Proofs.Load.Typing
import IrMachine.Proofs.Number.Resizing

/-!
# Two ways to hold an integer of a standard width

An integer of 1, 8, 16, 32 or 64 bits is held by a register of that width, or with its width carried
along. The two are stored by different encoders and loaded by different readers, so that a variable
may be written in one way and read in the other. `IntWidth.both_ways_agree` says that this makes no
difference: both have the same pattern (`Scalar.Holds`), and a pattern decides the bytes, the
integer at its own width and, except for an `i1`, the signed reading.
-/

namespace IrMachine

/-- A number cut to a standard width has the pattern of the integer that carries the width. -/
theorem Scalar.holds_ofInt64 (width : IntWidth) (value : Int64) :
    (Scalar.ofInt64 width.bits value).Holds width.bits
      (LittleEndian.decode (VarInt.ofInt64 width.bits value).bytes) := by
  have standard : ScalarKind.ofBits width.bits = .int width := by cases width <;> rfl
  have decoded := ScalarKind.decode_ofInt64 width.bits value
  have holds := ScalarKind.holds_decode width (VarInt.ofInt64 width.bits value).bytes
  have cleared : LittleEndian.decode (VarInt.ofInt64 width.bits value).bytes < 2 ^ width.bits :=
    (VarInt.canonical_ofInt64 width.bits value).cleared
  rw [standard] at decoded
  rwa [decoded, Nat.mod_eq_of_lt cleared] at holds

namespace IntWidth

/-- Both ways of putting a number cut to a width do the same to a machine, and fail alike. -/
theorem put_eq (width : IntWidth) (machine : Machine) (address : UInt64) (value : Int64) :
    (Machine.putScalar address (.varInt (.ofInt64 width.bits value))).on machine =
      (Machine.putScalar address (.ofInt64 width.bits value)).on machine := by
  have carried := Scalar.Holds.varInt (VarInt.canonical_ofInt64 width.bits value)
  have bytes : (Scalar.varInt (.ofInt64 width.bits value)).encode =
      (Scalar.ofInt64 width.bits value).encode :=
    carried.encode_eq.trans (Scalar.holds_ofInt64 width value).encode_eq.symm
  show (Machine.writeBytes address (Scalar.encode _)).on machine = _
  rw [bytes]
  rfl

/-- The result of loading an integer into a register of a width and the result of loading it with
the width carried along come to the same. -/
inductive Agree (width : IntWidth) : Except Fault Value → Except Fault Value → Prop where
  | fault (fault : Fault) : Agree width (.error fault) (.error fault)
  | value {fixed : Scalar} {carried : VarInt} (kind : fixed.kind = .int width)
      (same : fixed.toVarInt? width.bits = some carried)
      (reading : width ≠ .w1 → fixed.toInt64? = some carried.toInt64) :
      Agree width (.ok (.scalar fixed)) (.ok (.scalar (.varInt carried)))

/-- Any bytes, also those with bits above the width, are read alike. -/
theorem decode_agree (width : IntWidth) (bytes : Bytes) :
    width.Agree (.ok (.scalar ((ScalarKind.int width).decode bytes)))
      (.ok (.scalar (.varInt (.ofBytes width.bits bytes)))) := by
  refine .value (ScalarKind.kind_decode ..) ?_ ?_
  · obtain ⟨result, resizes, keeps⟩ :=
      (ScalarKind.holds_decode width bytes).toVarInt?_self width.bits_pos
    rw [resizes, keeps.unique (VarInt.ofBytes_keeps ..)]
  · intro several
    obtain ⟨reading, reads, number⟩ := ScalarKind.toInt64?_decode several bytes
    obtain ⟨reading', reads', number'⟩ :=
      (Scalar.holds_ofBytes width.bits bytes).toInt64?_eq width.bits_pos width.bits_le nofun
    have same : reading = reading' := Int64.toInt_inj.mp (number.trans number'.symm)
    rw [reads, same]
    exact reads'.symm

theorem readNative_agree (width : IntWidth) (memory : NativeMemory) (location : UInt64) :
    width.Agree ((LoadKind.scalar (.int width)).readNative memory location)
      ((LoadKind.scalar (.varInt width.bits)).readNative memory location) := by
  rw [LoadKind.readNative_scalar_eq_map, LoadKind.readNative_scalar_eq_map]
  -- Both kinds have the same type, so they read the same bytes.
  show width.Agree ((memory.read location (Ty.int width.bits).byteSize).map _)
    ((memory.read location (Ty.int width.bits).byteSize).map _)
  cases memory.read location (Ty.int width.bits).byteSize with
  | error fault => exact .fault fault
  | ok bytes => exact width.decode_agree bytes

/-- Wherever integers lie in native memory, both ways of loading agree; and where there is no rule
for one, there is none for the other. -/
theorem load_agree (width : IntWidth) (machine : Machine) {source : Address}
    (inside : source.kind ≠ .object) :
    width.Agree ((LoadKind.scalar (.int width)).load machine source).1
      ((LoadKind.scalar (.varInt width.bits)).load machine source).1 := by
  cases source with
  | native location => exact width.readNative_agree machine.memory location
  | global id =>
      show width.Agree ((machine.resolve id).bind _) ((machine.resolve id).bind _)
      cases machine.resolve id with
      | error fault => exact .fault fault
      | ok location => exact width.readNative_agree machine.memory location
  | buffer id offset => exact .fault _
  | boxed primitive => exact .fault _
  | object id offset => exact absurd rfl inside

/-- The two ways to hold an integer of a standard width are interchangeable. Putting a number cut to
the width succeeds or fails alike and leaves the same machine. Loading through any address but that
of a foreign object faults alike, or gives the same integer at its own width, with the same signed
reading unless it is an `i1`. -/
theorem both_ways_agree (width : IntWidth) (machine : Machine) :
    (∀ (address : UInt64) (value : Int64),
      (Machine.putScalar address (.varInt (.ofInt64 width.bits value))).on machine =
        (Machine.putScalar address (.ofInt64 width.bits value)).on machine) ∧
    ∀ (history history' : List (Machine × Address)) (source : Address), source.kind ≠ .object →
      width.Agree
        ((LoadSite.after { kind := .scalar (.int width) } history).execute machine source).1
        ((LoadSite.after { kind := .scalar (.varInt width.bits) } history').execute machine
          source).1 := by
  refine ⟨width.put_eq machine, ?_⟩
  intro history history' source inside
  rw [(LoadSite.execute_after _ history machine source).1,
    (LoadSite.execute_after _ history' machine source).1]
  exact width.load_agree machine inside

def sampleMachine : Machine :=
  ((Machine.putScalar 0x100 (.i8 (-2))).on LoadSite.sampleMachine).2

/-- Putting minus two as an integer of eight bits gives the same machine, and both ways of loading
it agree. -/
theorem sample_agreement :
    (Machine.putScalar 0x100 (.varInt (.ofInt64 8 (-2)))).on LoadSite.sampleMachine =
        (.ok (), sampleMachine) ∧
      w8.Agree
        (LoadSite.execute { kind := .scalar (.int .w8) } sampleMachine (.native 0x100)).1
        (LoadSite.execute { kind := .scalar (.varInt 8) } sampleMachine (.native 0x100)).1 ∧
      (LoadSite.execute { kind := .scalar (.int .w8) } sampleMachine (.native 0x100)).1 =
        .ok (.scalar (.i8 (-2))) := by
  obtain ⟨put, _⟩ := both_ways_agree .w8 LoadSite.sampleMachine
  obtain ⟨_, load⟩ := both_ways_agree .w8 sampleMachine
  exact ⟨put 0x100 (-2), load [] [] (.native 0x100) (by decide), rfl⟩

end IntWidth

end IrMachine
