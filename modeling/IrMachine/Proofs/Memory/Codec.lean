import IrMachine.Proofs.Finalize.Initializer
import IrMachine.Proofs.VarInt

/-!
# What is put into native memory comes back

A `Datum` is anything that is put into native memory as a whole and got back as a whole: a scalar of
any kind, or a native address. Its kind decides how many bytes it takes and how they are read. Every
one of the encodings is undone by the reader of its kind (`Datum.decode_bytes`), and putting writes
the encoding or does nothing (`Datum.put_of_contains`, `Datum.put_of_outside`); with that, what
remains is about bytes: a write is seen only where it wrote, so two writes that share no byte can
change places.
-/

namespace IrMachine

def Region.Contains (region : Region) (place : Nat) : Prop :=
  region.start ≤ place ∧ place < region.stop

namespace Image

theorem set!_set!_comm (image : ByteArray) {first second : Nat} (different : first ≠ second)
    (byte byte' : UInt8) :
    (image.set! first byte).set! second byte' = (image.set! second byte').set! first byte := by
  apply ByteArray.ext
  show (image.data.set! first byte).set! second byte' =
    (image.data.set! second byte').set! first byte
  simp only [Array.set!_eq_setIfInBounds]
  exact Array.setIfInBounds_comm _ _ different

theorem set!_overwrite (image : ByteArray) {index : Nat} (byte : UInt8) {offset : Nat}
    {bytes : Bytes} (outside : index < offset ∨ offset + bytes.length ≤ index) :
    (overwrite image offset bytes).set! index byte =
      overwrite (image.set! index byte) offset bytes := by
  induction bytes generalizing image offset with
  | nil => rfl
  | cons first rest ih =>
      rw [List.length_cons] at outside
      rw [overwrite, overwrite, ih _ (by omega), set!_set!_comm image (by omega)]

/-- Writes that share no place can change places. -/
theorem overwrite_comm (image : ByteArray) {offset offset' : Nat} {bytes bytes' : Bytes}
    (disjoint : ∀ index, offset ≤ index → index < offset + bytes.length →
      index < offset' ∨ offset' + bytes'.length ≤ index) :
    overwrite (overwrite image offset bytes) offset' bytes' =
      overwrite (overwrite image offset' bytes') offset bytes := by
  induction bytes generalizing image offset with
  | nil => rfl
  | cons first rest ih =>
      rw [List.length_cons] at disjoint
      rw [overwrite, overwrite, set!_overwrite image first (disjoint offset (by omega) (by omega))]
      apply ih
      intro index above below
      exact disjoint index (by omega) (by omega)

end Image

/-- Storing in two places that share no byte gives the same memory in both orders. -/
theorem NativeMemory.stored_comm (memory : NativeMemory) {address address' : UInt64}
    {bytes bytes' : Bytes} (above : memory.base.toNat ≤ address.toNat)
    (above' : memory.base.toNat ≤ address'.toNat)
    (disjoint : ∀ place, ¬ (Region.Contains ⟨address.toNat, bytes.length⟩ place ∧
      Region.Contains ⟨address'.toNat, bytes'.length⟩ place)) :
    (memory.stored address bytes).stored address' bytes' =
      (memory.stored address' bytes').stored address bytes := by
  have swapped : Image.overwrite
        (Image.overwrite memory.image (address.toNat - memory.base.toNat) bytes)
        (address'.toNat - memory.base.toNat) bytes' =
      Image.overwrite
        (Image.overwrite memory.image (address'.toNat - memory.base.toNat) bytes')
        (address.toNat - memory.base.toNat) bytes := by
    apply Image.overwrite_comm
    intro index low high
    have apart := disjoint (memory.base.toNat + index)
    simp only [Region.Contains, Region.stop] at apart
    omega
  exact congrArg (fun image => { memory with image }) swapped

namespace LittleEndian

theorem ofNat_decode_encode_1 (word : UInt8) :
    UInt8.ofNat (decode (encode 1 word.toNat)) = word := by
  have small : word.toNat < 256 ^ 1 := word.toNat_lt
  rw [decode_encode, Nat.mod_eq_of_lt small, UInt8.ofNat_toNat]

end LittleEndian

theorem Float80.toBytes_ofBytes {bytes : Bytes} (ten : bytes.length = 10) :
    (ofBytes bytes).toBytes = bytes := by
  have fraction : LittleEndian.encode 8
      (UInt64.ofNat (LittleEndian.decode (bytes.take 8))).toNat = bytes.take 8 := by
    have length : (bytes.take 8).length = 8 := by rw [List.length_take]; omega
    have bound := LittleEndian.decode_lt (bytes.take 8)
    rw [length] at bound
    rw [UInt64.toNat_ofNat', Nat.mod_eq_of_lt (show _ < 2 ^ 64 from bound)]
    exact (LittleEndian.encode_of_decode_eq length rfl).symm
  have exponent : LittleEndian.encode 2
      (UInt16.ofNat (LittleEndian.decode (bytes.drop 8))).toNat = bytes.drop 8 := by
    have length : (bytes.drop 8).length = 2 := by rw [List.length_drop]; omega
    have bound := LittleEndian.decode_lt (bytes.drop 8)
    rw [length] at bound
    rw [UInt16.toNat_ofNat', Nat.mod_eq_of_lt (show _ < 2 ^ 16 from bound)]
    exact (LittleEndian.encode_of_decode_eq length rfl).symm
  rw [toBytes, ofBytes, fraction, exponent, List.take_append_drop]

/-- Integers of fewer than 2⁶⁴ bits have a size. -/
theorem Ty.isSome_size?_int {bits : Nat} (bound : bits < 2 ^ 64) : (Ty.int bits).size?.isSome := by
  have close := bytesForBits_lt bits
  have small : bytesForBits bits < sizeLimit := by
    change bytesForBits bits < 2 ^ 64
    omega
  rw [size?, checked, if_pos small]
  rfl

namespace Scalar

/-- An integer that carries its width is one that can be built, and its size is known; of all other
scalars nothing is asked. -/
def Proper : Scalar → Prop
  | varInt value => value.Canonical ∧ (Ty.int value.width).size?.isSome
  | _ => True

variable {value : Scalar}

/-- A scalar takes the bytes that its kind says. -/
theorem length_encode (proper : value.Proper) : value.encode.length = value.kind.width := by
  cases value with
  | i1 value => rfl
  | varInt value =>
      change value.bytes.length = (Ty.int value.width).byteSize
      rw [proper.1.full, Symbol.byteSize_int proper.2]
  | float80 value =>
      rw [encode, Float80.toBytes, List.length_append, LittleEndian.length_encode,
        LittleEndian.length_encode]
      rfl
  | _ => exact LittleEndian.length_encode ..

/-- The reader of a scalar's kind undoes its encoding. -/
theorem decode_encode (proper : value.Proper) : value.kind.decode value.encode = value := by
  cases value with
  | i1 value => cases value <;> rfl
  | i8 value =>
      simp only [kind, ScalarKind.decode, encode, LittleEndian.ofNat_decode_encode_1,
        Int8.toInt8_toUInt8]
  | i16 value =>
      simp only [kind, ScalarKind.decode, encode, LittleEndian.ofNat_decode_encode_2,
        Int16.toInt16_toUInt16]
  | i32 value =>
      simp only [kind, ScalarKind.decode, encode, LittleEndian.ofNat_decode_encode_4,
        Int32.toInt32_toUInt32]
  | i64 value =>
      simp only [kind, ScalarKind.decode, encode, LittleEndian.ofNat_decode_encode_8,
        Int64.toInt64_toUInt64]
  | varInt value => exact congrArg varInt proper.1.ofBytes_bytes
  | float value =>
      simp only [kind, ScalarKind.decode, encode, LittleEndian.ofNat_decode_encode_4]
  | double value =>
      simp only [kind, ScalarKind.decode, encode, LittleEndian.ofNat_decode_encode_8]
  | float80 value => exact congrArg float80 (Float80.ofBytes_toBytes value)
  | function pointer =>
      simp only [kind, ScalarKind.decode, encode, LittleEndian.ofNat_decode_encode_8]

end Scalar

inductive DatumKind where
  | scalar (kind : ScalarKind)
  | pointer
deriving DecidableEq

/-- What is put into native memory as a whole. -/
inductive Datum where
  | scalar (value : Scalar)
  | pointer (location : UInt64)
deriving DecidableEq

namespace DatumKind

def width : DatumKind → Nat
  | scalar kind => kind.width
  | pointer => Ty.addressBytes

def decode : DatumKind → Bytes → Datum
  | scalar kind, bytes => .scalar (kind.decode bytes)
  | pointer, bytes => .pointer (UInt64.ofNat (LittleEndian.decode bytes))

def get (memory : NativeMemory) (address : UInt64) : DatumKind → Except Fault Datum
  | scalar kind => (memory.getScalar kind address).map .scalar
  | pointer => (memory.getPointer address).map .pointer

theorem get_of_read {memory : NativeMemory} {address : UInt64} {kind : DatumKind} {bytes : Bytes}
    (holds : memory.read address kind.width = .ok bytes) :
    kind.get memory address = .ok (kind.decode bytes) := by
  cases kind with
  | scalar kind =>
      change memory.read address kind.width = .ok bytes at holds
      rw [get, NativeMemory.getScalar, holds]
      rfl
  | pointer =>
      change memory.read address Ty.addressBytes = .ok bytes at holds
      rw [get, NativeMemory.getPointer, holds]
      rfl

end DatumKind

namespace Datum

def kind : Datum → DatumKind
  | scalar value => .scalar value.kind
  | pointer _ => .pointer

def bytes : Datum → Bytes
  | scalar value => value.encode
  | pointer location => LittleEndian.encode Ty.addressBytes location.toNat

def put (address : UInt64) : Datum → Run Unit
  | scalar value => Machine.putScalar address value
  | pointer location => Machine.putPointer address location

/-- A datum that can be built. -/
def Proper : Datum → Prop
  | scalar value => value.Proper
  | pointer _ => True

variable {datum other : Datum} {machine after : Machine} {address address' : UInt64}

theorem length_bytes (proper : datum.Proper) : datum.bytes.length = datum.kind.width := by
  cases datum with
  | scalar value => exact Scalar.length_encode proper
  | pointer location => exact LittleEndian.length_encode ..

/-- The reader of a datum's kind undoes its encoding. -/
theorem decode_bytes (proper : datum.Proper) : datum.kind.decode datum.bytes = datum := by
  cases datum with
  | scalar value => exact congrArg scalar (Scalar.decode_encode proper)
  | pointer location => exact congrArg pointer (LittleEndian.ofNat_decode_encode_8 location)

theorem put_eq_writeBytes (datum : Datum) (address : UInt64) :
    datum.put address = Machine.writeBytes address datum.bytes := by
  cases datum <;> rfl

theorem put_of_contains (proper : datum.Proper)
    (inside : machine.memory.contains address.toNat datum.kind.width = true) :
    (datum.put address).on machine = (.ok (), machine.stored address datum.bytes) := by
  rw [← length_bytes proper] at inside
  rw [put_eq_writeBytes, Machine.writeBytes_ok inside]

theorem put_of_outside (proper : datum.Proper)
    (outside : machine.memory.contains address.toNat datum.kind.width = false) :
    (datum.put address).on machine = (.error (.memory address datum.kind.width), machine) := by
  have refused : machine.memory.write address datum.bytes =
      .error (.memory address datum.kind.width) := by
    rw [← length_bytes proper] at outside ⊢
    exact if_neg (Bool.eq_false_iff.mp outside)
  simp only [put_eq_writeBytes, Machine.writeBytes, Run.on_bind, Run.on_get, Run.on_ofExcept,
    refused]

/-- Putting a datum succeeds where its bytes lie inside the image. -/
theorem put_cases (machine : Machine) (address : UInt64) (proper : datum.Proper) :
    (machine.memory.contains address.toNat datum.kind.width = true ∧
      (datum.put address).on machine = (.ok (), machine.stored address datum.bytes)) ∨
    (machine.memory.contains address.toNat datum.kind.width = false ∧
      (datum.put address).on machine =
        (.error (.memory address datum.kind.width), machine)) := by
  cases inside : machine.memory.contains address.toNat datum.kind.width with
  | true => exact .inl ⟨rfl, put_of_contains proper inside⟩
  | false => exact .inr ⟨rfl, put_of_outside proper inside⟩

theorem put_eq_ok (proper : datum.Proper)
    (succeeded : (datum.put address).on machine = (.ok (), after)) :
    machine.memory.contains address.toNat datum.kind.width = true ∧
      after = machine.stored address datum.bytes := by
  obtain ⟨inside, ran⟩ | ⟨_, ran⟩ := put_cases machine address proper
  · rw [ran] at succeeded
    cases succeeded
    exact ⟨inside, rfl⟩
  · rw [ran] at succeeded
    cases succeeded

/-- The machine after a datum was put somewhere: it is found there again, and nothing else has
changed. -/
structure PutAt (datum : Datum) (address : UInt64) (before after : Machine) : Prop where
  back : datum.kind.get after.memory address = .ok datum
  bytes : after.memory.read address datum.kind.width = .ok datum.bytes
  outside : ∀ index, ¬ Region.Contains ⟨address.toNat, datum.kind.width⟩
      (before.memory.base.toNat + index) →
    after.memory.image.get! index = before.memory.image.get! index
  size : after.memory.size = before.memory.size
  frame : after =
    { before with memory := { before.memory with image := after.memory.image } }

theorem putAt_stored (proper : datum.Proper)
    (inside : machine.memory.contains address.toNat datum.kind.width = true) :
    datum.PutAt address machine (machine.stored address datum.bytes) := by
  have length := length_bytes proper
  have above := (NativeMemory.contains_iff.mp inside).1
  have holds : (machine.stored address datum.bytes).memory.read address datum.kind.width =
      .ok datum.bytes := by
    rw [← length] at inside ⊢
    exact machine.memory.read_stored inside
  refine ⟨?_, holds, ?_, machine.memory.stored_size .., rfl⟩
  · rw [DatumKind.get_of_read holds, decode_bytes proper]
  · intro index apart
    apply Image.get!_overwrite_outside
    simp only [Region.Contains, Region.stop] at apart
    omega

/-- Two data that share no byte can be put in either order, and both come back. -/
theorem put_comm (proper : datum.Proper) (proper' : other.Proper)
    (inside : machine.memory.contains address.toNat datum.kind.width = true)
    (inside' : machine.memory.contains address'.toNat other.kind.width = true)
    (disjoint : ∀ place, ¬ (Region.Contains ⟨address.toNat, datum.kind.width⟩ place ∧
      Region.Contains ⟨address'.toNat, other.kind.width⟩ place)) :
    ∃ both, (other.put address').on (machine.stored address datum.bytes) = (.ok (), both) ∧
      (datum.put address).on (machine.stored address' other.bytes) = (.ok (), both) ∧
      datum.kind.get both.memory address = .ok datum ∧
      other.kind.get both.memory address' = .ok other := by
  have still : (machine.stored address' other.bytes).memory.contains address.toNat
      datum.kind.width = true :=
    (machine.memory.stored_contains ..).trans inside
  have still' : (machine.stored address datum.bytes).memory.contains address'.toNat
      other.kind.width = true :=
    (machine.memory.stored_contains ..).trans inside'
  have same : (machine.stored address datum.bytes).stored address' other.bytes =
      (machine.stored address' other.bytes).stored address datum.bytes := by
    rw [← length_bytes proper, ← length_bytes proper'] at disjoint
    exact congrArg (fun memory => { machine with memory })
      (machine.memory.stored_comm (NativeMemory.contains_iff.mp inside).1
        (NativeMemory.contains_iff.mp inside').1 disjoint)
  refine ⟨_, put_of_contains proper' still', ?_, ?_, (putAt_stored proper' still').back⟩
  · rw [put_of_contains proper still, same]
  · rw [same]
    exact (putAt_stored proper still).back

/-- Native memory keeps what is put into it. Putting a datum succeeds exactly where its bytes lie
inside the image. It then comes back, all bytes around it are as before, and data in other bytes can
be put before or after it. Where putting fails, the fault says what was asked for, and nothing has
changed. -/
theorem put_round_trips (machine : Machine) (address : UInt64) (proper : datum.Proper) :
    (((datum.put address).on machine).1 = .ok () ↔
      machine.memory.base.toNat ≤ address.toNat ∧
        address.toNat + datum.kind.width ≤ machine.memory.base.toNat + machine.memory.size) ∧
    (∀ after, (datum.put address).on machine = (.ok (), after) →
      datum.PutAt address machine after) ∧
    (∀ fault after, (datum.put address).on machine = (.error fault, after) →
      fault = .memory address datum.kind.width ∧ after = machine) ∧
    (∀ (other : Datum) (address' : UInt64), other.Proper →
      (∀ place, ¬ (Region.Contains ⟨address.toNat, datum.kind.width⟩ place ∧
        Region.Contains ⟨address'.toNat, other.kind.width⟩ place)) →
      ∀ after after', (datum.put address).on machine = (.ok (), after) →
        (other.put address').on machine = (.ok (), after') →
        ∃ both, (other.put address').on after = (.ok (), both) ∧
          (datum.put address).on after' = (.ok (), both) ∧
          datum.kind.get both.memory address = .ok datum ∧
          other.kind.get both.memory address' = .ok other) ∧
    -- Any ten bytes are those of an extended number.
    ∀ bytes : Bytes, bytes.length = 10 →
      (scalar (.float80 (.ofBytes bytes))).bytes = bytes := by
  refine ⟨?_, ?_, ?_, ?_, fun _ => Float80.toBytes_ofBytes⟩
  · rw [← NativeMemory.contains_iff]
    obtain ⟨inside, ran⟩ | ⟨outside, ran⟩ := put_cases machine address proper
    · simp [ran, inside]
    · simp [ran, outside]
  · intro after succeeded
    obtain ⟨inside, rfl⟩ := put_eq_ok proper succeeded
    exact putAt_stored proper inside
  · intro fault after failed
    obtain ⟨_, ran⟩ | ⟨_, ran⟩ := put_cases machine address proper
    · rw [ran] at failed
      cases failed
    · rw [ran] at failed
      cases failed
      exact ⟨rfl, rfl⟩
  · intro other address' proper' disjoint after after' succeeded succeeded'
    obtain ⟨inside, rfl⟩ := put_eq_ok proper succeeded
    obtain ⟨inside', rfl⟩ := put_eq_ok proper' succeeded'
    exact put_comm proper proper' inside inside' disjoint

/-- A number of 12 bits, which fills the last two bytes of the memory. -/
def sampleNumber : Datum := .scalar (.varInt (.ofInt64 12 (-2)))

/-- The number and an address right below it are put in either order, and both come back. -/
theorem sample_round_trip :
    sampleNumber.PutAt 0x13E LoadSite.sampleMachine
        ((sampleNumber.put 0x13E).on LoadSite.sampleMachine).2 ∧
      ∃ both,
        ((pointer 0x108).put 0x136).on ((sampleNumber.put 0x13E).on LoadSite.sampleMachine).2 =
          (.ok (), both) ∧
        sampleNumber.kind.get both.memory 0x13E = .ok sampleNumber ∧
        DatumKind.pointer.get both.memory 0x136 = .ok (pointer 0x108) := by
  have proper : sampleNumber.Proper :=
    ⟨VarInt.canonical_ofInt64 12 (-2), Ty.isSome_size?_int (by decide)⟩
  obtain ⟨_, put, _, comm, _⟩ := put_round_trips LoadSite.sampleMachine 0x13E proper
  have disjoint : ∀ place, ¬ (Region.Contains ⟨0x13E, 2⟩ place ∧
      Region.Contains ⟨0x136, 8⟩ place) := by
    intro place
    simp only [Region.Contains, Region.stop]
    omega
  obtain ⟨both, first, _, number, address⟩ :=
    comm (pointer 0x108) 0x136 trivial disjoint _ _ rfl rfl
  exact ⟨put _ rfl, both, first, number, address⟩

end Datum

end IrMachine
