import IrMachine.Proofs.Load.Caching
import IrMachine.Proofs.NativeMemory
import IrMachine.Proofs.StoredForms
import Mathlib.Data.List.Induction

/-!
# Managed buffers store bytes exactly

A buffer decides in words whether an access lies inside it. `Buffer.contains_iff` says that this
comes to the same as unbounded arithmetic, so that `Buffer.Spans` is all there is to say about when
an access succeeds. What a write leaves in the buffer is said byte by byte: `BufferWrite.put?` is
the byte that a write puts at a place, and none where it fails or does not reach.

The main result is `Machine.buffers_store_exactly`. After any writes, to any buffers and successful
or not, a byte is what the last write that reached it put there, and a load of an address through a
buffer reads the eight bytes there.
-/

namespace IrMachine

namespace Buffer

def byteAt (buffer : Buffer) (index : Nat) : UInt8 := buffer.image.get! index

def Spans (buffer : Buffer) (offset : Int64) (length : Nat) : Prop :=
  0 ≤ offset.toInt ∧ offset.toInt + length ≤ buffer.size
deriving Decidable

def bytesAt (buffer : Buffer) (offset : Int64) (length : Nat) : Bytes :=
  (List.range length).map fun index => buffer.byteAt (offset.toInt.toNat + index)

variable {buffer : Buffer} {offset : Int64} {length : Nat} {bytes : Bytes}

@[simp] theorem size_stored (buffer : Buffer) (offset : Int64) (bytes : Bytes) :
    (buffer.stored offset bytes).size = buffer.size :=
  Image.size_overwrite ..

theorem toNat_toUInt64_of_nonneg (positive : 0 ≤ offset.toInt) :
    (offset.toUInt64.toNat : Int) = offset.toInt := by
  have word := VarInt.toNat_toUInt64 offset
  have high := offset.toInt_lt
  omega

/-- The end of an access is the unbounded sum, where that is a word. -/
theorem stop?_eq_some_iff {stop : UInt64} :
    stop? offset length = some stop ↔
      0 ≤ offset.toInt ∧ offset.toInt + length = stop.toNat := by
  have sign : offset < 0 ↔ offset.toInt < 0 := Int64.lt_iff_toInt_lt
  have limit : stop.toNat < UInt64.size := stop.toNat_lt
  rw [stop?]
  by_cases negative : offset < 0
  · rw [if_pos negative]
    have below := sign.mp negative
    exact ⟨nofun, fun ⟨above, _⟩ => by omega⟩
  · have positive : 0 ≤ offset.toInt := Int.not_lt.mp fun below => negative (sign.mpr below)
    have start := toNat_toUInt64_of_nonneg positive
    rw [if_neg negative]
    by_cases fits : offset.toUInt64.toNat + length < UInt64.size
    · have sum : (offset.toUInt64 + UInt64.ofNat length).toNat =
          offset.toUInt64.toNat + length := by
        rw [UInt64.toNat_add, UInt64.toNat_ofNat_of_lt' (by omega)]
        exact Nat.mod_eq_of_lt fits
      rw [if_pos fits, Option.some.injEq, ← UInt64.toNat_inj, sum]
      omega
    · rw [if_neg fits]
      exact ⟨nofun, fun ⟨_, sum⟩ => by omega⟩

/-- An access is found inside the buffer exactly if it is, in unbounded arithmetic. -/
theorem contains_iff : buffer.contains offset length = true ↔ buffer.Spans offset length := by
  have limit : buffer.size < UInt64.size := buffer.size_lt
  rw [contains, Spans]
  cases ended : stop? offset length with
  | some stop =>
      obtain ⟨positive, sum⟩ := stop?_eq_some_iff.mp ended
      rw [Option.any_some, decide_eq_true_iff]
      omega
  | none =>
      refine ⟨nofun, fun ⟨positive, inside⟩ => ?_⟩
      have word : (UInt64.ofNat (offset.toInt + length).toNat).toNat =
          (offset.toInt + length).toNat := UInt64.toNat_ofNat_of_lt' (by omega)
      rw [stop?_eq_some_iff.mpr ⟨positive, by rw [word]; omega⟩] at ended
      cases ended

theorem read_of_spans (inside : buffer.Spans offset length) :
    buffer.read offset length = .ok (buffer.bytesAt offset length) :=
  if_pos (contains_iff.mpr inside)

theorem read_of_not_spans (outside : ¬ buffer.Spans offset length) :
    buffer.read offset length = .error (buffer.outside offset length) :=
  if_neg fun inside => outside (contains_iff.mp inside)

theorem write_of_spans (inside : buffer.Spans offset bytes.length) :
    buffer.write offset bytes = .ok (buffer.stored offset bytes) :=
  if_pos (contains_iff.mpr inside)

theorem write_of_not_spans (outside : ¬ buffer.Spans offset bytes.length) :
    buffer.write offset bytes = .error (buffer.outside offset bytes.length) :=
  if_neg fun inside => outside (contains_iff.mp inside)

/-- Bytes that were stored are found where they were put. -/
theorem bytesAt_stored (inside : buffer.Spans offset bytes.length) :
    (buffer.stored offset bytes).bytesAt offset bytes.length = bytes := by
  apply Image.slice_overwrite
  obtain ⟨positive, room⟩ := inside
  change offset.toInt + bytes.length ≤ buffer.image.size at room
  omega

end Buffer

inductive BufferWrite where
  | bytes (offset : Int64) (data : Bytes)
  | int64 (offset value : Int64)
deriving DecidableEq

namespace BufferWrite

def offset : BufferWrite → Int64
  | bytes offset _ => offset
  | int64 offset _ => offset

def content : BufferWrite → Bytes
  | bytes _ data => data
  | int64 _ value => LittleEndian.encode 8 value.toUInt64.toNat

def run (id : BufferId) : BufferWrite → Run Unit
  | bytes offset data => Machine.writeBuffer id offset data
  | int64 offset value => Machine.writeBufferInt64 id offset value

/-- The byte that a write puts at a place of a buffer of a size: none if it does not lie inside such
a buffer, and none at places that it does not reach. -/
def put? (write : BufferWrite) (size index : Nat) : Option UInt8 :=
  if 0 ≤ write.offset.toInt ∧ write.offset.toInt + write.content.length ≤ size ∧
      write.offset.toInt ≤ index then
    write.content[index - write.offset.toInt.toNat]?
  else none

variable {write : BufferWrite}

theorem run_eq (write : BufferWrite) (id : BufferId) :
    write.run id = Machine.updateBuffer id (·.write write.offset write.content) := by
  cases write <;> rfl

theorem put?_of_not_spans {buffer : Buffer} {index : Nat}
    (outside : ¬ buffer.Spans write.offset write.content.length) :
    write.put? buffer.size index = none :=
  if_neg fun ⟨positive, room, _⟩ => outside ⟨positive, room⟩

/-- A write that lies inside the buffer replaces the bytes it reaches, and no others. -/
theorem byteAt_stored {buffer : Buffer} (inside : buffer.Spans write.offset write.content.length)
    (index : Nat) :
    (buffer.stored write.offset write.content).byteAt index =
      (write.put? buffer.size index).getD (buffer.byteAt index) := by
  obtain ⟨positive, room⟩ := inside
  change write.offset.toInt + write.content.length ≤ buffer.image.size at room
  rw [put?]
  by_cases reached : write.offset.toInt.toNat ≤ index ∧
      index < write.offset.toInt.toNat + write.content.length
  · obtain ⟨low, high⟩ := reached
    have here : index = write.offset.toInt.toNat + (index - write.offset.toInt.toNat) := by omega
    have bound : index - write.offset.toInt.toNat < write.content.length := by omega
    have put := Image.get!_overwrite_inside buffer.image write.offset.toInt.toNat write.content
      (by omega) bound
    rw [← here] at put
    rw [if_pos ⟨positive, room, by omega⟩, List.getElem?_eq_getElem bound, Option.getD_some]
    exact put
  · have missed : (if 0 ≤ write.offset.toInt ∧
        write.offset.toInt + write.content.length ≤ buffer.size ∧ write.offset.toInt ≤ index then
          write.content[index - write.offset.toInt.toNat]? else none) = none := by
      split
      · exact List.getElem?_eq_none (by omega)
      · rfl
    rw [missed, Option.getD_none]
    exact Image.get!_overwrite_outside buffer.image _ index write.content (by omega)

end BufferWrite

namespace Machine

variable {machine : Machine} {id : BufferId}

theorem buffer_setBuffer (machine : Machine) (id query : BufferId) (buffer : Buffer) :
    (machine.setBuffer id buffer).buffer query =
      if query = id ∧ id.index < machine.buffers.size then buffer else machine.buffer query := by
  simp only [Machine.buffer, setBuffer, Array.getD_eq_getD_getElem?, Array.getElem?_setIfInBounds]
  by_cases same : query = id
  · subst same
    by_cases known : query.index < machine.buffers.size
    · simp [known]
    · simp [known]
  · have apart : id.index ≠ query.index :=
      fun equal => same (by cases query; cases id; exact congrArg BufferId.mk equal.symm)
    simp [same, apart]

/-- A buffer that does not exist is empty, so that nothing but nothing can be written to it. -/
theorem buffer_setBuffer_stored {offset : Int64} {bytes : Bytes}
    (inside : (machine.buffer id).Spans offset bytes.length) (query : BufferId) :
    (machine.setBuffer id ((machine.buffer id).stored offset bytes)).buffer query =
      if query = id then (machine.buffer id).stored offset bytes else machine.buffer query := by
  rw [buffer_setBuffer]
  by_cases same : query = id
  · subst same
    by_cases known : query.index < machine.buffers.size
    · rw [if_pos ⟨rfl, known⟩, if_pos rfl]
    · have empty : (machine.buffer query).size = 0 := by
        rw [Machine.buffer, Array.getD_eq_getD_getElem?, Array.getElem?_eq_none (by omega)]
        rfl
      have none : bytes = [] := by
        obtain ⟨positive, room⟩ := inside
        exact List.eq_nil_of_length_eq_zero (by omega)
      rw [if_neg fun both => known both.2, if_pos rfl, none]
      rfl
  · rw [if_neg fun both => same both.1, if_neg same]

theorem updateBuffer_ok {update : Buffer → Except Fault Buffer} {buffer : Buffer}
    (updated : update (machine.buffer id) = .ok buffer) :
    (updateBuffer id update).on machine = (.ok (), machine.setBuffer id buffer) := by
  simp only [updateBuffer, Run.on_bind, Run.on_get, Run.on_ofExcept, updated, Run.on_modify]

theorem updateBuffer_error {update : Buffer → Except Fault Buffer} {fault : Fault}
    (refused : update (machine.buffer id) = .error fault) :
    (updateBuffer id update).on machine = (.error fault, machine) := by
  simp only [updateBuffer, Run.on_bind, Run.on_get, Run.on_ofExcept, refused]

end Machine

namespace BufferWrite

variable {write : BufferWrite} {machine : Machine} {id : BufferId}

theorem run_of_spans (inside : (machine.buffer id).Spans write.offset write.content.length) :
    (write.run id).on machine =
      (.ok (), machine.setBuffer id ((machine.buffer id).stored write.offset write.content)) := by
  rw [run_eq]
  exact Machine.updateBuffer_ok (Buffer.write_of_spans inside)

theorem run_of_not_spans
    (outside : ¬ (machine.buffer id).Spans write.offset write.content.length) :
    (write.run id).on machine =
      (.error ((machine.buffer id).outside write.offset write.content.length), machine) := by
  rw [run_eq]
  exact Machine.updateBuffer_error (Buffer.write_of_not_spans outside)

/-- A number that was stored is found as its eight bytes. -/
theorem bytesAt_int64 {offset value : Int64} (inside : (machine.buffer id).Spans offset 8) :
    ((((int64 offset value).run id).on machine).2.buffer id).bytesAt offset 8 =
      LittleEndian.encode 8 value.toUInt64.toNat := by
  have length : (int64 offset value).content.length = 8 := LittleEndian.length_encode ..
  have fits : (machine.buffer id).Spans (int64 offset value).offset
      (int64 offset value).content.length := by
    rw [length]
    exact inside
  have bytes := Buffer.bytesAt_stored fits
  rw [length] at bytes
  rw [run_of_spans fits, Machine.buffer_setBuffer_stored fits, if_pos rfl]
  exact bytes

/-- What one write does to every buffer, whether or not it succeeds. -/
theorem buffer_run (write : BufferWrite) (id query : BufferId) (machine : Machine) :
    (((write.run id).on machine).2.buffer query).size = (machine.buffer query).size ∧
      ∀ index, (((write.run id).on machine).2.buffer query).byteAt index =
        (if query = id then write.put? (machine.buffer query).size index else none).getD
          ((machine.buffer query).byteAt index) := by
  by_cases inside : (machine.buffer id).Spans write.offset write.content.length
  · rw [run_of_spans inside, Machine.buffer_setBuffer_stored inside]
    by_cases same : query = id
    · subst same
      rw [if_pos rfl]
      exact ⟨Buffer.size_stored .., fun index => by rw [if_pos rfl, byteAt_stored inside]⟩
    · rw [if_neg same]
      exact ⟨rfl, fun index => by rw [if_neg same, Option.getD_none]⟩
  · rw [run_of_not_spans inside]
    refine ⟨rfl, fun index => ?_⟩
    by_cases same : query = id
    · subst same
      rw [if_pos rfl, put?_of_not_spans inside, Option.getD_none]
    · rw [if_neg same, Option.getD_none]

end BufferWrite

namespace Machine

/-- The machine after writes to buffers, one after the other, of which some may fail. -/
def afterWrites (machine : Machine) (history : List (BufferId × BufferWrite)) : Machine :=
  history.foldl (fun machine (id, write) => ((write.run id).on machine).2) machine

/-- The byte that the last write which reached a place of a buffer put there, if there was one. -/
def lastPut? (id : BufferId) (size index : Nat) (history : List (BufferId × BufferWrite)) :
    Option UInt8 :=
  history.reverse.findSome? fun step =>
    if id = step.1 then step.2.put? size index else none

theorem lastPut?_concat (id target : BufferId) (size index : Nat) (write : BufferWrite)
    (history : List (BufferId × BufferWrite)) :
    lastPut? id size index (history ++ [(target, write)]) =
      (if id = target then write.put? size index else none).or
        (lastPut? id size index history) := by
  simp only [lastPut?, List.reverse_append, List.reverse_singleton, List.singleton_append,
    List.findSome?_cons]
  cases if id = target then write.put? size index else none <;> rfl

/-- Buffers keep their sizes, and their bytes are those of the last writes. -/
theorem buffer_afterWrites (machine : Machine) (history : List (BufferId × BufferWrite))
    (id : BufferId) :
    ((machine.afterWrites history).buffer id).size = (machine.buffer id).size ∧
      ∀ index, ((machine.afterWrites history).buffer id).byteAt index =
        (lastPut? id (machine.buffer id).size index history).getD
          ((machine.buffer id).byteAt index) := by
  induction history using List.reverseRecOn with
  | nil => exact ⟨rfl, fun _ => rfl⟩
  | append_singleton history step ih =>
      obtain ⟨target, write⟩ := step
      obtain ⟨size, bytes⟩ := ih
      have last : machine.afterWrites (history ++ [(target, write)]) =
          ((write.run target).on (machine.afterWrites history)).2 :=
        List.foldl_append ..
      obtain ⟨kept, put⟩ := write.buffer_run target id (machine.afterWrites history)
      rw [last]
      refine ⟨kept.trans size, fun index => ?_⟩
      rw [put index, size, bytes index, lastPut?_concat, Option.getD_or]

/-- What every access to a buffer of the machine comes to. Outside the buffer it is a fault that
leaves the machine as it was; inside, a write changes nothing but the buffer. -/
structure AccessesExactly (machine : Machine) (id : BufferId) : Prop where
  read : ∀ offset length, (machine.buffer id).read offset length =
    if (machine.buffer id).Spans offset length then
      .ok ((machine.buffer id).bytesAt offset length)
    else .error ((machine.buffer id).outside offset length)
  readInt64 : ∀ offset, (machine.buffer id).readInt64 offset =
    if (machine.buffer id).Spans offset 8 then
      .ok (UInt64.ofNat (LittleEndian.decode ((machine.buffer id).bytesAt offset 8))).toInt64
    else .error ((machine.buffer id).outside offset 8)
  write : ∀ write : BufferWrite,
    if (machine.buffer id).Spans write.offset write.content.length then
      ∃ buffer, (write.run id).on machine = (.ok (), machine.setBuffer id buffer)
    else (write.run id).on machine =
      (.error ((machine.buffer id).outside write.offset write.content.length), machine)
  /-- A site of any history loads an address through the buffer. -/
  load : ∀ history offset,
    ((LoadSite.after { kind := .address } history).execute machine (.buffer id offset)).1 =
      if (machine.buffer id).Spans offset 8 then
        .ok (.address (.native (.ofNat
          (LittleEndian.decode ((machine.buffer id).bytesAt offset 8)))))
      else .error ((machine.buffer id).outside offset 8)
  /-- A number that was just stored is loaded as an address. -/
  loadBack : ∀ history offset value, (machine.buffer id).Spans offset 8 →
    ((LoadSite.after { kind := .address } history).execute
        ((writeBufferInt64 id offset value).on machine).2 (.buffer id offset)).1 =
      .ok (.address (.native value.toUInt64))

/-- A load of an address through a buffer gives the number of the eight bytes there. -/
theorem execute_buffer (machine : Machine) (id : BufferId) (history : List (Machine × Address))
    (offset : Int64) :
    ((LoadSite.after { kind := .address } history).execute machine (.buffer id offset)).1 =
      if (machine.buffer id).Spans offset 8 then
        .ok (.address (.native (.ofNat
          (LittleEndian.decode ((machine.buffer id).bytesAt offset 8)))))
      else .error ((machine.buffer id).outside offset 8) := by
  have loaded : (LoadKind.address.load machine (.buffer id offset)).1 =
      ((machine.buffer id).readInt64 offset).map fun value => .address (.native value.toUInt64) :=
    rfl
  rw [(LoadSite.execute_after .address history machine (.buffer id offset)).1, loaded,
    Buffer.readInt64]
  by_cases inside : (machine.buffer id).Spans offset 8
  · rw [if_pos inside, Buffer.read_of_spans inside]
    simp only [Except.map, UInt64.toUInt64_toInt64]
  · rw [if_neg inside, Buffer.read_of_not_spans inside]
    rfl

theorem accessesExactly (machine : Machine) (id : BufferId) : machine.AccessesExactly id where
  read offset length := by
    by_cases inside : (machine.buffer id).Spans offset length
    · rw [if_pos inside, Buffer.read_of_spans inside]
    · rw [if_neg inside, Buffer.read_of_not_spans inside]
  readInt64 offset := by
    rw [Buffer.readInt64]
    by_cases inside : (machine.buffer id).Spans offset 8
    · rw [if_pos inside, Buffer.read_of_spans inside]
      rfl
    · rw [if_neg inside, Buffer.read_of_not_spans inside]
      rfl
  write write := by
    by_cases inside : (machine.buffer id).Spans write.offset write.content.length
    · rw [if_pos inside]
      exact ⟨_, BufferWrite.run_of_spans inside⟩
    · rw [if_neg inside]
      exact BufferWrite.run_of_not_spans inside
  load := machine.execute_buffer id
  loadBack history offset value inside := by
    have still : ((((BufferWrite.int64 offset value).run id).on machine).2.buffer id).Spans
        offset 8 := by
      rw [Buffer.Spans, (BufferWrite.buffer_run ..).1]
      exact inside
    have back := execute_buffer (((BufferWrite.int64 offset value).run id).on machine).2 id
      history offset
    rw [if_pos still, BufferWrite.bytesAt_int64 inside, LittleEndian.ofNat_decode_encode_8] at back
    exact back

/-- Managed buffers are exact byte stores. Every access succeeds exactly where it lies inside the
buffer, in unbounded arithmetic; and after any writes, to this buffer and to others, successful or
not, the buffer has the size it had, and each of its bytes is the one that the last write which
reached it put there, or the first one if there was none. -/
theorem buffers_store_exactly (machine : Machine) (id : BufferId) :
    machine.AccessesExactly id ∧
      ∀ history : List (BufferId × BufferWrite),
        ((machine.afterWrites history).buffer id).size = (machine.buffer id).size ∧
        ∀ index, ((machine.afterWrites history).buffer id).byteAt index =
          (lastPut? id (machine.buffer id).size index history).getD
            ((machine.buffer id).byteAt index) :=
  ⟨machine.accessesExactly id, fun history => machine.buffer_afterWrites history id⟩

def bufferMachine : Machine := { LoadSite.sampleMachine with buffers := #[.new 16] }

/-- Two writes that overlap, one that ends outside the buffer, and one that starts outside. -/
def sampleWrites : List (BufferId × BufferWrite) :=
  [(⟨0⟩, .int64 0 (-1)), (⟨0⟩, .bytes 6 [1, 2, 3]), (⟨0⟩, .int64 9 5), (⟨0⟩, .bytes (-1) [7, 7])]

/-- The second write prevails where the first two overlap, the others leave no trace, and the last
eight bytes of the buffer can be loaded. -/
theorem sample_stored :
    ¬ (bufferMachine.buffer ⟨0⟩).Spans 9 8 ∧ ¬ (bufferMachine.buffer ⟨0⟩).Spans (-1) 2 ∧
      ((bufferMachine.afterWrites sampleWrites).buffer ⟨0⟩).byteAt 5 = 0xFF ∧
      ((bufferMachine.afterWrites sampleWrites).buffer ⟨0⟩).byteAt 6 = 1 ∧
      ((bufferMachine.afterWrites sampleWrites).buffer ⟨0⟩).byteAt 9 = 0 ∧
      (bufferMachine.buffer ⟨0⟩).Spans 8 8 ∧
      (({ kind := .address } : LoadSite).execute
        ((writeBufferInt64 ⟨0⟩ 8 (-1)).on bufferMachine).2 (.buffer ⟨0⟩ 8)).1 =
          .ok (.address (.native 0xFFFFFFFFFFFFFFFF)) := by
  obtain ⟨accesses, kept⟩ := buffers_store_exactly bufferMachine ⟨0⟩
  obtain ⟨_, bytes⟩ := kept sampleWrites
  have inside : (bufferMachine.buffer ⟨0⟩).Spans 8 8 := by decide
  refine ⟨by decide, by decide, ?_, ?_, ?_, inside, accesses.loadBack [] 8 (-1) inside⟩
  · rw [bytes]
    rfl
  · rw [bytes]
    rfl
  · rw [bytes]
    rfl

end Machine

end IrMachine
