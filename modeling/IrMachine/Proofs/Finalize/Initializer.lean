import IrMachine.Proofs.Finalize.Storage
import IrMachine.Proofs.Load.Direct
import IrMachine.Proofs.StoredForms

/-!
# What an initializer writes and what a load finds

`Symbol.encoding` gives the bytes that a variable holds for its initializer, and `Symbol.loaded` the
value that a load of the variable's type gives for them. Writing an initializer stores its encoding
and nothing else (`Machine.writeInitializer_ok`), and whoever finds that encoding in memory loads
that value (`Symbol.readNative_encoding`), although other functions read than write.
-/

namespace IrMachine

namespace Symbol

/-- The bytes that a variable of a type holds for a symbol that fits it; `place` says where globals
are. A null pointer and an initializer of zeros are zero bytes. -/
def encoding (place : GlobalId → UInt64) (ty : Ty) (symbol : Symbol) : Bytes :=
  match ty, symbol with
  | .int bits, integer _ value =>
      LittleEndian.encode (Ty.bytesForBits bits) (value.toInt % 2 ^ bits).toNat
  | .float, floating _ value => LittleEndian.encode 4 value.toSingle.bits.toNat
  | .double, floating _ value => LittleEndian.encode 8 value.bits.toNat
  | .float80, floating _ value => (Float80.ofDouble value).toBytes
  | .pointer, function _ code => LittleEndian.encode 8 code.toNat
  | .pointer, global target => LittleEndian.encode 8 (place target).toNat
  | ty, _ => List.replicate ty.byteSize 0

/-- What a load of a variable gives for a symbol that fits its type: an aggregate is handed out by
its location, and a symbol that is no number or address stands for zero. -/
def loaded (place : GlobalId → UInt64) (location : UInt64) (ty : Ty) (symbol : Symbol) : Value :=
  match ty, symbol with
  | .int bits, integer _ value => .scalar (.ofInt64 bits value)
  | .int bits, _ => .scalar (.ofInt64 bits 0)
  | .float, floating _ value => .scalar (.float value.toSingle)
  | .float, _ => .scalar (.float ⟨0⟩)
  | .double, floating _ value => .scalar (.double value)
  | .double, _ => .scalar (.double ⟨0⟩)
  | .float80, floating _ value => .scalar (.float80 (.ofDouble value))
  | .float80, _ => .scalar (.float80 .zero)
  | .pointer, function _ code => .address (.native code)
  | .pointer, global target => .address (.native (place target))
  | .pointer, _ => .address (.native 0)
  | .function .., _ => .scalar (.function 0)
  | .struct .., _ | .array .., _ => .address (.native location)
  | .void, _ => .void

theorem byteSize_int {bits : Nat} (sized : (Ty.int bits).size?.isSome) :
    (Ty.int bits).byteSize = Ty.bytesForBits bits := by
  rw [Ty.size?, Ty.checked] at sized
  rw [Ty.byteSize, Ty.size?, Ty.checked]
  split at sized
  · rename_i small
    rw [if_pos small]
    rfl
  · cases sized

theorem encode_eq_ofInt64 (bits : Nat) (value : Int64) :
    LittleEndian.encode (Ty.bytesForBits bits) (value.toInt % 2 ^ bits).toNat =
      (VarInt.ofInt64 bits value).bytes := by
  have number := VarInt.decode_ofInt64 bits value
  exact (LittleEndian.encode_of_decode_eq (VarInt.length_ofInt64 bits value) (by omega)).symm

theorem replicate_eq_ofInt64 (bits : Nat) :
    List.replicate (Ty.bytesForBits bits) 0 = (VarInt.ofInt64 bits 0).bytes := by
  rw [← encode_eq_ofInt64, ← LittleEndian.encode_zero_value]
  simp

theorem encoding_zero (place : GlobalId → UInt64) (ty written : Ty) :
    (zero written).encoding place ty = List.replicate ty.byteSize 0 := by
  cases ty <;> rfl

/-- An encoding fills the variable. -/
theorem length_encoding (place : GlobalId → UInt64) {ty : Ty} (symbol : Symbol)
    (sized : ty.size?.isSome) : (symbol.encoding place ty).length = ty.byteSize := by
  unfold encoding
  split
  · rw [LittleEndian.length_encode, byteSize_int sized]
  · rw [LittleEndian.length_encode]; rfl
  · rw [LittleEndian.length_encode]; rfl
  · rw [Float80.toBytes, List.length_append, LittleEndian.length_encode,
      LittleEndian.length_encode]; rfl
  · rw [LittleEndian.length_encode]; rfl
  · rw [LittleEndian.length_encode]; rfl
  · rw [List.length_replicate]

end Symbol

namespace ScalarKind

theorem ty_ofBits (bits : Nat) : (ofBits bits).ty = .int bits := by
  unfold ofBits IntWidth.ofBits?
  split <;> rfl

end ScalarKind

namespace LoadKind

theorem ofTy_int {bits : Nat} {kind : LoadKind} (loads : ofTy (.int bits) = .ok kind) :
    kind = .scalar (.ofBits bits) := by
  cases bits with
  | zero => cases loads
  | succ bits => exact (Except.ok.inj loads).symm

theorem readNative_scalar {kind : ScalarKind} {memory : NativeMemory} {location : UInt64}
    {bytes : Bytes} (holds : memory.read location kind.ty.byteSize = .ok bytes) :
    (LoadKind.scalar kind).readNative memory location = .ok (.scalar (kind.decode bytes)) := by
  rw [readNative, NativeMemory.getScalar, ScalarKind.width, holds]
  rfl

theorem readNative_address {memory : NativeMemory} {location pointer : UInt64}
    (holds : memory.read location Ty.pointer.byteSize =
      .ok (LittleEndian.encode 8 pointer.toNat)) :
    LoadKind.address.readNative memory location = .ok (.address (.native pointer)) := by
  have found : memory.getPointer location = .ok pointer := by
    rw [NativeMemory.getPointer]
    change (memory.read location Ty.pointer.byteSize).map _ = _
    rw [holds]
    exact congrArg Except.ok (LittleEndian.ofNat_decode_encode_8 pointer)
  rw [readNative, found]
  rfl

end LoadKind

namespace Symbol

/-- A load from a place that holds the encoding of a symbol gives the symbol's value. -/
theorem readNative_encoding {place : GlobalId → UInt64} {ty : Ty} {symbol : Symbol}
    {memory : NativeMemory} {location : UInt64} {kind : LoadKind} (fits : symbol.fits ty = true)
    (sized : ty.size?.isSome) (loads : LoadKind.ofTy ty = .ok kind)
    (holds : memory.read location ty.byteSize = .ok (symbol.encoding place ty)) :
    kind.readNative memory location = .ok (symbol.loaded place location ty) := by
  cases ty with
  | void => cases loads
  | struct fields packed =>
      cases loads
      rfl
  | array element length =>
      cases loads
      rfl
  | int bits =>
      obtain rfl := LoadKind.ofTy_int loads
      rw [← ScalarKind.ty_ofBits bits] at holds
      rw [LoadKind.readNative_scalar holds, ScalarKind.ty_ofBits]
      cases symbol with
      | integer ty value =>
          rw [encoding, encode_eq_ofInt64, ScalarKind.decode_ofInt64]
          rfl
      | zero ty =>
          rw [encoding_zero, byteSize_int sized, replicate_eq_ofInt64, ScalarKind.decode_ofInt64]
          rfl
      | _ => cases fits
  | float =>
      cases loads
      rw [LoadKind.readNative_scalar holds]
      cases symbol with
      | floating ty value =>
          simp only [encoding, loaded, ScalarKind.decode, LittleEndian.ofNat_decode_encode_4]
      | zero ty => rfl
      | _ => cases fits
  | double =>
      cases loads
      rw [LoadKind.readNative_scalar holds]
      cases symbol with
      | floating ty value =>
          simp only [encoding, loaded, ScalarKind.decode, LittleEndian.ofNat_decode_encode_8]
      | zero ty => rfl
      | _ => cases fits
  | float80 =>
      cases loads
      rw [LoadKind.readNative_scalar holds]
      cases symbol with
      | floating ty value =>
          simp only [encoding, loaded, ScalarKind.decode, Float80.ofBytes_toBytes]
      | zero ty => rfl
      | _ => cases fits
  | pointer =>
      cases loads
      cases symbol with
      | global target => exact LoadKind.readNative_address holds
      | function name code => exact LoadKind.readNative_address holds
      | null => exact LoadKind.readNative_address holds
      | zero ty => exact LoadKind.readNative_address holds
      | _ => cases fits
  | function result params varargs =>
      cases loads
      rw [LoadKind.readNative_scalar holds]
      cases symbol with
      | zero ty => rfl
      | _ => cases fits

end Symbol

namespace Machine

def placeOf (machine : Machine) (id : GlobalId) : UInt64 := (machine.locations.get? id).getD 0

/-- The machine after bytes were stored in its memory; callers have checked the bounds. -/
def stored (machine : Machine) (address : UInt64) (bytes : Bytes) : Machine :=
  { machine with memory := machine.memory.stored address bytes }

theorem writeBytes_ok {machine : Machine} {address : UInt64} {bytes : Bytes}
    (inside : machine.memory.contains address.toNat bytes.length = true) :
    (writeBytes address bytes).on machine = (.ok (), machine.stored address bytes) := by
  simp only [writeBytes, Run.on_bind, Run.on_get, Run.on_ofExcept,
    NativeMemory.write_of_contains inside, Run.on_modify]
  rfl

/-- Writing an initializer that was checked stores its encoding, and changes nothing else. -/
theorem writeInitializer_ok {machine : Machine} {address : UInt64} {entry : GlobalEntry}
    {symbol : Symbol} (fits : symbol.fits entry.ty = true) (sized : entry.ty.size?.isSome)
    (references : ∀ target, symbol = .global target →
      (machine.globals.get? target).isSome ∧ (machine.locations.get? target).isSome)
    (inside : machine.memory.contains address.toNat entry.ty.byteSize = true) :
    (writeInitializer address entry symbol).on machine =
      (.ok (), machine.stored address (symbol.encoding machine.placeOf entry.ty)) := by
  obtain ⟨kind, ty, alignment, slot, named, resolution⟩ := entry
  change symbol.fits ty = true at fits
  change ty.size?.isSome = true at sized
  change machine.memory.contains address.toNat ty.byteSize = true at inside
  change _ = (Except.ok (), machine.stored address (symbol.encoding machine.placeOf ty))
  rw [← Symbol.length_encoding machine.placeOf symbol sized] at inside
  have written := writeBytes_ok inside
  cases symbol with
  | zero declared =>
      rw [Symbol.encoding_zero] at written ⊢
      cases ty <;> exact written
  | integer declared value =>
      cases ty with
      | int bits =>
          rw [Symbol.encoding, Symbol.encode_eq_ofInt64] at written ⊢
          exact written
      | _ => cases fits
  | floating declared value =>
      cases ty with
      | float => exact written
      | double => exact written
      | float80 => exact written
      | _ => cases fits
  | null =>
      cases ty with
      | pointer => exact written
      | _ => cases fits
  | function name code =>
      cases ty with
      | pointer => exact written
      | _ => cases fits
  | global target =>
      cases ty with
      | pointer =>
          obtain ⟨alive, placed⟩ := references target rfl
          obtain ⟨found, alive⟩ := Option.isSome_iff_exists.mp alive
          obtain ⟨location, placed⟩ := Option.isSome_iff_exists.mp placed
          have here : machine.placeOf target = location := by rw [placeOf, placed]; rfl
          have followed :
              ∀ referrer, machine.globals.follow referrer target = .ok (target, found) :=
            fun _ => GlobalTable.follow_eq_ok_iff.mpr ⟨rfl, alive⟩
          rw [Symbol.encoding, here] at written ⊢
          unfold writeInitializer
          simp only [Run.on_bind, Run.on_get, Run.on_ofExcept, followed,
            resolve_eq_ok_iff.mpr placed]
          exact written
      | _ => cases fits

end Machine

end IrMachine
