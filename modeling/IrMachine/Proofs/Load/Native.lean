import IrMachine.Proofs.Load.Typing
import IrMachine.Proofs.Memory.Codec
import IrMachine.Proofs.Number.Patterns

/-!
# Loads from native memory read exactly the bytes of their type

How many bytes a load reads follows from its kind, and how large a value is follows from its type.
`LoadSite.native_load_is_exact` says that the two are the same for every scalar type: a load from a
native address succeeds exactly where all bytes of the type lie inside the image, and gives what
the number of these bytes stands for at the type. `Ty.Reads` says what that is. It leaves no choice
(`Ty.Reads.unique`), so images that agree on the bytes of a value agree on the value.
-/

namespace IrMachine

namespace NativeMemory

def byteAt (memory : NativeMemory) (place : Nat) : UInt8 :=
  memory.image.get! (place - memory.base.toNat)

def Spans (memory : NativeMemory) (address length : Nat) : Prop :=
  memory.base.toNat ≤ address ∧ address + length ≤ memory.base.toNat + memory.size

def bytesAt (memory : NativeMemory) (address length : Nat) : Bytes :=
  (List.range length).map fun index => memory.byteAt (address + index)

@[simp] theorem length_bytesAt (memory : NativeMemory) (address length : Nat) :
    (memory.bytesAt address length).length = length := by
  simp [bytesAt]

theorem bytesAt_congr {memory memory' : NativeMemory} {address length : Nat}
    (same : ∀ place, Region.Contains ⟨address, length⟩ place →
      memory.byteAt place = memory'.byteAt place) :
    memory.bytesAt address length = memory'.bytesAt address length := by
  apply List.map_congr_left
  intro index member
  have bound : index < length := List.mem_range.mp member
  apply same
  simp only [Region.Contains, Region.stop]
  omega

/-- A read inside the image gives the bytes that lie there. -/
theorem Spans.read_eq {memory : NativeMemory} {address : UInt64} {length : Nat}
    (inside : memory.Spans address.toNat length) :
    memory.read address length = .ok (memory.bytesAt address.toNat length) := by
  have bytes : Image.slice memory.image (address.toNat - memory.base.toNat) length =
      memory.bytesAt address.toNat length := by
    apply List.map_congr_left
    intro index _
    rw [byteAt, Nat.sub_add_comm inside.1]
  rw [read, if_pos (contains_iff.mpr inside), bytes]

theorem read_of_not_spans {memory : NativeMemory} {address : UInt64} {length : Nat}
    (outside : ¬ memory.Spans address.toNat length) :
    memory.read address length = .error (.memory address length) :=
  if_neg fun inside => outside (contains_iff.mp inside)

end NativeMemory

namespace Ty

/-- The types whose values are loaded as a whole. -/
def IsScalar (ty : Ty) : Prop := ty ≠ .void ∧ ty ≠ .int 0 ∧ ty.isAggregate = false

/-- What the number of a value's bytes stands for at a scalar type. An `i1` is the lowest bit, other
integers of the standard widths are two's complement, and all others are cut to their width. -/
inductive Reads (number : Nat) : Ty → Value → Prop where
  | flag {value : Bool} (bit : value = true ↔ number % 2 = 1) :
      Reads number (.int 1) (.scalar (.i1 value))
  | int {bits : Nat} {width : IntWidth} {value : Scalar} {reading : Int64}
      (standard : IntWidth.ofBits? bits = some width) (several : width ≠ .w1)
      (kind : value.kind = .int width) (reads : value.toInt64? = some reading)
      (signed : reading.toInt = VarInt.signed bits number) :
      Reads number (.int bits) (.scalar value)
  | varInt {bits : Nat} {value : VarInt} (other : IntWidth.ofBits? bits = none)
      (keeps : value.Keeps bits (number % 2 ^ bits)) :
      Reads number (.int bits) (.scalar (.varInt value))
  | float {value : Single} (pattern : value.bits.toNat = number) :
      Reads number .float (.scalar (.float value))
  | double {value : Double} (pattern : value.bits.toNat = number) :
      Reads number .double (.scalar (.double value))
  | float80 {value : Float80}
      (pattern : value.fraction.toNat + 2 ^ 64 * value.signExponent.toNat = number) :
      Reads number .float80 (.scalar (.float80 value))
  | pointer {location : UInt64} (pattern : location.toNat = number) :
      Reads number .pointer (.address (.native location))
  | function {result : Ty} {params : List Ty} {varargs : Bool} {code : UInt64}
      (pattern : code.toNat = number) :
      Reads number (.function result params varargs) (.scalar (.function code))

end Ty

/-- An integer of a standard width is what its signed reading is cut to. -/
theorem Scalar.eq_ofInt64 {width : IntWidth} {value : Scalar} {reading : Int64}
    (kind : value.kind = .int width) (reads : value.toInt64? = some reading) :
    value = .ofInt64 width.bits reading := by
  cases value <;> cases kind <;> cases reads
  case i1.refl.refl flag => cases flag <;> rfl
  all_goals simp [ofInt64, IntWidth.bits, IntWidth.ofBits?]

/-- At every type there is only one value for a number. -/
theorem Ty.Reads.unique {number : Nat} {ty : Ty} {first second : Value}
    (reads : ty.Reads number first) (reads' : ty.Reads number second) : first = second := by
  cases reads with
  | flag bit =>
      cases reads' with
      | flag bit' => rw [Bool.eq_iff_iff.mpr (bit.trans bit'.symm)]
      | int standard several => cases standard; exact absurd rfl several
      | varInt other => cases other
  | int standard several kind read signed =>
      cases reads' with
      | flag => cases standard; exact absurd rfl several
      | int standard' _ kind' read' signed' =>
          obtain rfl := Option.some.inj (standard.symm.trans standard')
          have same := Int64.toInt_inj.mp (signed.trans signed'.symm)
          rw [Scalar.eq_ofInt64 kind read, Scalar.eq_ofInt64 kind' read', same]
      | varInt other => cases standard.symm.trans other
  | varInt other keeps =>
      cases reads' with
      | flag => cases other
      | int standard => cases standard.symm.trans other
      | varInt _ keeps' => rw [keeps.unique keeps']
  | float pattern =>
      cases reads' with
      | float pattern' =>
          exact congrArg (fun bits => Value.scalar (.float ⟨bits⟩))
            (UInt32.toNat_inj.mp (pattern.trans pattern'.symm))
  | double pattern =>
      cases reads' with
      | double pattern' =>
          exact congrArg (fun bits => Value.scalar (.double ⟨bits⟩))
            (UInt64.toNat_inj.mp (pattern.trans pattern'.symm))
  | @float80 value pattern =>
      cases reads' with
      | @float80 value' pattern' =>
          have low := value.fraction.toNat_lt
          have low' := value'.fraction.toNat_lt
          have fraction : value.fraction = value'.fraction := UInt64.toNat_inj.mp (by omega)
          have exponent : value.signExponent = value'.signExponent :=
            UInt16.toNat_inj.mp (by omega)
          exact congrArg₂ (fun exponent fraction => Value.scalar (.float80 ⟨exponent, fraction⟩))
            exponent fraction
  | pointer pattern =>
      cases reads' with
      | pointer pattern' => rw [UInt64.toNat_inj.mp (pattern.trans pattern'.symm)]
  | function pattern =>
      cases reads' with
      | function pattern' => rw [UInt64.toNat_inj.mp (pattern.trans pattern'.symm)]

/-- The ten bytes of an extended number are its fraction with the exponent word above it. -/
theorem Float80.decode_toBytes (value : Float80) :
    LittleEndian.decode value.toBytes =
      value.fraction.toNat + 2 ^ 64 * value.signExponent.toNat := by
  have fraction : value.fraction.toNat < 256 ^ 8 := value.fraction.toNat_lt
  have exponent : value.signExponent.toNat < 256 ^ 2 := value.signExponent.toNat_lt
  rw [toBytes, LittleEndian.decode_append, LittleEndian.length_encode, LittleEndian.decode_encode,
    LittleEndian.decode_encode, Nat.mod_eq_of_lt fraction, Nat.mod_eq_of_lt exponent]
  rfl

/-- The reader of a width gives what the bytes of an integer stand for. -/
theorem ScalarKind.reads_decode_ofBits {bits : Nat} {bytes : Bytes}
    (size : bytes.length = (Ty.int bits).byteSize) :
    (Ty.int bits).Reads (LittleEndian.decode bytes) (.scalar ((ofBits bits).decode bytes)) := by
  cases found : IntWidth.ofBits? bits with
  | none =>
      have kind : ofBits bits = .varInt bits := by rw [ofBits, found]; rfl
      rw [kind]
      exact .varInt found (VarInt.ofBytes_keeps bits bytes)
  | some width =>
      have kind : ofBits bits = .int width := by rw [ofBits, found]; rfl
      obtain rfl := IntWidth.bits_of_ofBits? found
      rw [kind]
      by_cases flag : width = .w1
      · subst flag
        exact .flag beq_iff_eq
      · -- The bytes have no bits above the width, so their whole number is read.
        have whole : 256 ^ (Ty.int width.bits).byteSize = 2 ^ width.bits := by
          cases width <;> first | exact absurd rfl flag | rfl
        have bound := LittleEndian.decode_lt bytes
        rw [size, whole] at bound
        obtain ⟨reading, reads, signed⟩ := toInt64?_decode flag bytes
        rw [Nat.mod_eq_of_lt bound] at signed
        exact .int found flag (kind_decode ..) reads signed

namespace LoadKind

variable {ty : Ty} {kind : LoadKind}

/-- A load of a scalar type reads the bytes of the type and makes of them what they stand for. -/
theorem readNative_eq_map (scalar : ty.IsScalar) (loads : ofTy ty = .ok kind) :
    ∃ made : Bytes → Value,
      (∀ memory location,
        kind.readNative memory location = (memory.read location ty.byteSize).map made) ∧
      ∀ bytes, bytes.length = ty.byteSize → ty.Reads (LittleEndian.decode bytes) (made bytes) := by
  have bound : ∀ bytes : Bytes, bytes.length = ty.byteSize →
      LittleEndian.decode bytes < 256 ^ ty.byteSize :=
    fun bytes size => size ▸ LittleEndian.decode_lt bytes
  obtain ⟨notVoid, notEmpty, notAggregate⟩ := scalar
  cases ty with
  | void => exact absurd rfl notVoid
  | struct fields packed => cases notAggregate
  | array element length => cases notAggregate
  | int bits =>
      obtain rfl := ofTy_int loads
      refine ⟨_, fun memory location => ?_, fun bytes => ScalarKind.reads_decode_ofBits⟩
      rw [readNative_scalar_eq_map, ScalarKind.ty_ofBits]
  | float =>
      cases loads
      refine ⟨_, readNative_scalar_eq_map .float, fun bytes size => ?_⟩
      exact .float (UInt32.toNat_ofNat_of_lt' (bound bytes size))
  | double =>
      cases loads
      refine ⟨_, readNative_scalar_eq_map .double, fun bytes size => ?_⟩
      exact .double (UInt64.toNat_ofNat_of_lt' (bound bytes size))
  | float80 =>
      cases loads
      refine ⟨_, readNative_scalar_eq_map .float80, fun bytes size => ?_⟩
      have fields := Float80.decode_toBytes (.ofBytes bytes)
      rw [Float80.toBytes_ofBytes size] at fields
      exact .float80 fields.symm
  | function result params varargs =>
      cases loads
      refine ⟨_, readNative_scalar_eq_map .function, fun bytes size => ?_⟩
      exact .function (UInt64.toNat_ofNat_of_lt' (bound bytes size))
  | pointer =>
      cases loads
      refine ⟨fun bytes => .address (.native (UInt64.ofNat (LittleEndian.decode bytes))), ?_, ?_⟩
      · intro memory location
        show ((memory.read location Ty.pointer.byteSize).map _).map _ = _
        cases memory.read location Ty.pointer.byteSize <;> rfl
      · intro bytes size
        exact .pointer (UInt64.toNat_ofNat_of_lt' (bound bytes size))

end LoadKind

/-- What a load of a scalar type gives at an address of native memory. -/
structure Ty.LoadsExactly (ty : Ty) (memory : NativeMemory) (address : UInt64)
    (result : Except Fault Value) : Prop where
  succeeds : (∃ value, result = .ok value) ↔ memory.Spans address.toNat ty.byteSize
  fault : ¬ memory.Spans address.toNat ty.byteSize → result = .error (.memory address ty.byteSize)
  reads : ∀ value, result = .ok value →
    ty.Reads (LittleEndian.decode (memory.bytesAt address.toNat ty.byteSize)) value

theorem LoadKind.readNative_exact {ty : Ty} {kind : LoadKind} (scalar : ty.IsScalar)
    (loads : ofTy ty = .ok kind) (memory : NativeMemory) (address : UInt64) :
    ty.LoadsExactly memory address (kind.readNative memory address) := by
  obtain ⟨made, reading, reads⟩ := readNative_eq_map scalar loads
  rw [reading]
  by_cases inside : memory.Spans address.toNat ty.byteSize
  · rw [inside.read_eq]
    refine ⟨iff_of_true ⟨_, rfl⟩ inside, fun outside => absurd inside outside, ?_⟩
    rintro value ⟨⟩
    exact reads _ (memory.length_bytesAt ..)
  · rw [NativeMemory.read_of_not_spans inside]
    refine ⟨iff_of_false nofun inside, fun _ => rfl, nofun⟩

/-- Images that agree on the bytes of a value agree on the value. -/
theorem Ty.LoadsExactly.eq_of_same {ty : Ty} {memory memory' : NativeMemory} {address : UInt64}
    {result result' : Except Fault Value} (loads : ty.LoadsExactly memory address result)
    (loads' : ty.LoadsExactly memory' address result')
    (inside : memory.Spans address.toNat ty.byteSize)
    (inside' : memory'.Spans address.toNat ty.byteSize)
    (same : ∀ place, Region.Contains ⟨address.toNat, ty.byteSize⟩ place →
      memory.byteAt place = memory'.byteAt place) : result = result' := by
  obtain ⟨value, rfl⟩ := loads.succeeds.mpr inside
  obtain ⟨value', rfl⟩ := loads'.succeeds.mpr inside'
  have reads := loads.reads value rfl
  rw [NativeMemory.bytesAt_congr same] at reads
  rw [reads.unique (loads'.reads value' rfl)]

namespace LoadSite

/-- A load from native memory reads exactly the bytes of its type. Every scalar type has a load
site; and whatever the site was used for before, a load from an address succeeds exactly if all
bytes of the type lie inside the image, gives what their number stands for, and else names the
address and the size in its fault. Nothing but these bytes decides the value. -/
theorem native_load_is_exact {ty : Ty} (scalar : ty.IsScalar) :
    ∃ site, ofTy ty = .ok site ∧
      (∀ (history : List (Machine × Address)) (machine : Machine) (address : UInt64),
        ty.LoadsExactly machine.memory address
          ((site.after history).execute machine (.native address)).1) ∧
      ∀ (history history' : List (Machine × Address)) (machine machine' : Machine)
        (address : UInt64), machine.memory.Spans address.toNat ty.byteSize →
        machine'.memory.Spans address.toNat ty.byteSize →
        (∀ place, Region.Contains ⟨address.toNat, ty.byteSize⟩ place →
          machine.memory.byteAt place = machine'.memory.byteAt place) →
        ((site.after history).execute machine (.native address)).1 =
          ((site.after history').execute machine' (.native address)).1 := by
  obtain ⟨kind, loads⟩ := LoadKind.ofTy_ok scalar.1 scalar.2.1
  have exactly : ∀ (history : List (Machine × Address)) (machine : Machine) (address : UInt64),
      ty.LoadsExactly machine.memory address
        ((after { kind } history).execute machine (.native address)).1 := by
    intro history machine address
    rw [(execute_after kind history machine _).1, LoadKind.load_native]
    exact LoadKind.readNative_exact scalar loads machine.memory address
  refine ⟨{ kind }, map_eq_ok_iff.mpr ⟨kind, loads, rfl⟩, exactly, ?_⟩
  intro history history' machine machine' address inside inside' same
  exact (exactly history machine address).eq_of_same (exactly history' machine' address) inside
    inside' same

def sampleBytes : Machine :=
  { sampleMachine with memory := sampleMachine.memory.stored 0x13E [0xFE, 0x9F] }

/-- A machine that has no other memory than these two bytes. -/
def sampleScrap : Machine :=
  { sampleMachine with memory := { base := 0x13E, image := ⟨#[0xFE, 0x9F]⟩, next := 0x13E } }

/-- Both machines give the same number of 12 bits, and one byte further on there is none. -/
theorem sample_exact :
    ∃ site, ofTy (.int 12) = .ok site ∧
      (∃ value, (site.execute sampleBytes (.native 0x13E)).1 = .ok value ∧
        (Ty.int 12).Reads 0x9FFE value) ∧
      (site.execute sampleBytes (.native 0x13E)).1 =
        (site.execute sampleScrap (.native 0x13E)).1 ∧
      (site.execute sampleBytes (.native 0x13F)).1 = .error (.memory 0x13F 2) := by
  obtain ⟨site, made, exactly, decided⟩ :=
    native_load_is_exact (show (Ty.int 12).IsScalar from ⟨nofun, nofun, rfl⟩)
  have inside : sampleBytes.memory.Spans 0x13E 2 := ⟨by decide, by decide⟩
  obtain ⟨value, loaded⟩ := (exactly [] sampleBytes 0x13E).succeeds.mpr inside
  refine ⟨site, made, ⟨value, loaded, (exactly [] sampleBytes 0x13E).reads value loaded⟩, ?_, ?_⟩
  · apply decided [] [] sampleBytes sampleScrap 0x13E inside ⟨by decide, by decide⟩
    rintro place ⟨low, high⟩
    obtain rfl | rfl : place = 0x13E ∨ place = 0x13F := by
      change 0x13E ≤ place at low
      change place < 0x140 at high
      omega
    · rfl
    · rfl
  · exact (exactly [] sampleBytes 0x13F).fault fun beyond => absurd beyond.2 (by decide)

end LoadSite

end IrMachine
