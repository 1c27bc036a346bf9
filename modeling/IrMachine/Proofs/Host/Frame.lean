import IrMachine.Proofs.Host.Lifecycle
import IrMachine.Proofs.Host.Storage
import IrMachine.Proofs.Memory.Codec

/-!
# Finalising a module leaves everything else alone

A module is written into storage that was free before, so whoever reads what was handed out earlier
sees no difference. Two facts carry this. Storage is handed out from below (`Host.Tidy`), so all of
the earlier storage ends where the module's storage starts. And a global that has a place is
initialised (`Host.Settled`), as long as the host places none by itself; a module that is finalised
has no such global, so no place is given out a second time.

What a load gives depends on memory only through the bytes that it reads (`LoadKind.load_congr`).
-/

namespace IrMachine

namespace LoadKind

/-- How many bytes of native memory a load reads. An aggregate is handed out unread. -/
def footprint : LoadKind → Nat
  | scalar kind => kind.width
  | address => Ty.addressBytes
  | aggregate => 0

theorem readNative_congr (kind : LoadKind) {memory memory' : NativeMemory} {location : UInt64}
    (same : memory'.read location kind.footprint = memory.read location kind.footprint) :
    kind.readNative memory' location = kind.readNative memory location := by
  cases kind with
  | scalar kind =>
      change memory'.read location kind.width = memory.read location kind.width at same
      rw [readNative, readNative, NativeMemory.getScalar, NativeMemory.getScalar, same]
  | address =>
      change memory'.read location Ty.addressBytes = memory.read location Ty.addressBytes at same
      rw [readNative, readNative, NativeMemory.getPointer, NativeMemory.getPointer, same]
  | aggregate => rfl

/-- A load of a variable stays inside the variable. -/
theorem footprint_le_byteSize {ty : Ty} {kind : LoadKind} (loads : ofTy ty = .ok kind) :
    kind.footprint ≤ ty.byteSize := by
  cases ty with
  | void => cases loads
  | int bits =>
      obtain rfl := ofTy_int loads
      show (ScalarKind.ofBits bits).ty.byteSize ≤ (Ty.int bits).byteSize
      rw [ScalarKind.ty_ofBits]
  | struct fields packed =>
      cases loads
      exact Nat.zero_le _
  | array element length =>
      cases loads
      exact Nat.zero_le _
  | _ =>
      cases loads
      exact Nat.le_refl _

/-- A load through an address of native memory is decided by the place and the bytes there. -/
theorem load_congr (kind : LoadKind) {machine machine' : Machine} {address : Address}
    {location : UInt64} (place : address.toNative machine = .ok location)
    (place' : address.toNative machine' = .ok location)
    (same : machine'.memory.read location kind.footprint =
      machine.memory.read location kind.footprint) :
    (kind.load machine' address).1 = (kind.load machine address).1 := by
  rw [load, load]
  cases kind.select address.kind with
  | error fault => rfl
  | ok routine =>
      cases routine with
      | direct =>
          show (address.toNative machine').bind _ = (address.toNative machine).bind _
          rw [place, place']
          exact kind.readNative_congr same
      | passThrough => rfl
      | buffer =>
          cases address with
          | buffer id offset => cases place
          | _ => rfl
      | foreign =>
          cases address with
          | object id offset => cases place
          | _ => rfl

end LoadKind

/-- The native location of an address stays as long as places do. -/
theorem Address.toNative_mono {machine machine' : Machine} (address : Address) {location : UInt64}
    (places : ∀ id location, machine.locations.get? id = some location →
      machine'.locations.get? id = some location)
    (place : address.toNative machine = .ok location) :
    address.toNative machine' = .ok location := by
  cases address with
  | global id =>
      apply Machine.resolve_eq_ok_iff.mpr
      exact places id location (Machine.resolve_eq_ok_iff.mp place)
  | native location => exact place
  | buffer id offset => cases place
  | object id offset => cases place
  | boxed value =>
      cases value with
      | int value => exact place
      | _ => cases place

namespace Module.Finalised

variable {unit : Module} {before after : Machine}

/-- An initializer is written to storage that was free before. -/
theorem fresh (finalised : unit.Finalised before after) {id : GlobalId} {entry : GlobalEntry}
    {symbol : Symbol} {location : UInt64} (own : id ∈ unit.globals)
    (assigns : after.Assigns id entry symbol location) :
    before.memory.next ≤ location.toNat ∧
      location.toNat + entry.storageSize ≤ after.memory.next := by
  obtain ⟨old, declared, rfl⟩ := declares_of_settled finalised.entries ⟨own, assigns.alive⟩
  have isVariable := assigns.isVariable
  rw [settled_kind] at isVariable
  obtain ⟨found, placed, above, below, _⟩ := finalised.places id old declared isVariable
  obtain rfl := Option.some.inj (placed.symm.trans assigns.placed)
  rw [GlobalEntry.storageSize, settled_ty]
  exact ⟨above, below⟩

/-- What was handed out before is as it was. -/
theorem read_below (finalised : unit.Finalised before after) {address : UInt64} {length : Nat}
    (below : address.toNat + length ≤ before.memory.next) :
    after.memory.read address length = before.memory.read address length := by
  apply finalised.kept
  intro id own entry symbol location assigns
  have above := (finalised.fresh own assigns).1
  exact .inl (Nat.le_trans below above)

/-- A byte that has changed is one of a variable with an initializer. -/
theorem written (finalised : unit.Finalised before after) {address : UInt64}
    (changed : after.memory.read address 1 ≠ before.memory.read address 1) :
    ∃ id ∈ unit.globals, ∃ entry symbol location, after.Assigns id entry symbol location ∧
      Region.Contains ⟨location.toNat, entry.ty.byteSize⟩ address.toNat ∧
      before.memory.next ≤ location.toNat ∧
      location.toNat + entry.storageSize ≤ after.memory.next := by
  by_contra untouched
  apply changed
  apply finalised.kept
  intro id own entry symbol location assigns
  by_contra meets
  refine untouched ⟨id, own, entry, symbol, location, assigns, ?_, finalised.fresh own assigns⟩
  simp only [Region.Apart, Region.stop] at meets
  show location.toNat ≤ address.toNat ∧ address.toNat < location.toNat + entry.ty.byteSize
  omega

/-- Entries outside the module are as they were. -/
theorem get?_of_not_mem (finalised : unit.Finalised before after) {id : GlobalId}
    (foreign : id ∉ unit.globals) : after.globals.get? id = before.globals.get? id := by
  have same : unit.settled id = fun entry => entry := by
    funext entry
    exact if_neg foreign
  rw [finalised.entries, same]
  exact Option.map_id'

end Module.Finalised

namespace Host

variable {config : Config} {machine : Machine} {host : Host}

/-- Every global with a place is initialised. -/
def Settled (host : Host) : Prop :=
  ∀ id entry location, host.machine.globals.get? id = some entry →
    host.machine.locations.get? id = some location → entry.isInitialised = true

/-- A place is an old one, or that of a global which its module has just resolved. -/
theorem placed_step (tidy : host.Tidy) (coherent : host.Coherent config) (event : Event)
    (allowed : event.isBind = false) {id : GlobalId} {location : UInt64}
    (placed : (host.step event).machine.locations.get? id = some location) :
    id.index < host.declared.length ∧ (host.machine.locations.get? id = some location ∨
      (host.resolving id event).isSome) := by
  have old : (host.step event).machine.locations = host.machine.locations →
      id.index < host.declared.length ∧ (host.machine.locations.get? id = some location ∨
        (host.resolving id event).isSome) := by
    intro same
    rw [same] at placed
    exact ⟨tidy.known id location placed, .inl placed⟩
  have updated : ∀ target update,
      ((Machine.updateGlobal target update).on host.machine).2.locations =
        host.machine.locations := by
    intro target update
    obtain same | ⟨_, _, _, _, changed⟩ := host.machine.updateGlobal_cases target update
    · rw [same]
    · rw [changed]
  cases event with
  | declare unit kind ty alignment slot => exact old rfl
  | forget held => exact old rfl
  | setName target name => exact old (updated target _)
  | initialise target symbols => exact old (updated target _)
  | bind target location => cases allowed
  | finalize index =>
      cases found : host.modules[index]? with
      | none => exact old (by rw [finalize_of_none found])
      | some unit =>
          have owned := coherent.owned unit (List.mem_of_getElem? found)
          rw [finalize_of_some found, Host.after] at placed
          obtain ⟨_, after, ran, finalised⟩ | ⟨_, fault, stop, ran, _⟩ :=
            Machine.finalize_cases owned coherent.sound
          · rw [ran] at placed
            by_cases own : id ∈ unit.globals
            · obtain ⟨entry, alive⟩ := Option.isSome_iff_exists.mp (owned.alive id own)
              refine ⟨(List.getElem?_eq_some_iff.mp (coherent.declared id entry alive)).1, .inr ?_⟩
              rw [resolving, found, Option.bind_some, ran, if_pos ⟨own, rfl⟩]
              rfl
            · rw [finalised.others id own] at placed
              exact ⟨tidy.known id location placed, .inl placed⟩
          · rw [ran] at placed
            exact ⟨tidy.known id location placed, .inl placed⟩
  | _ => exact old (host.step_quiet rfl).2

theorem Settled.step (settled : host.Settled) (tidy : host.Tidy) (coherent : host.Coherent config)
    (event : Event) (allowed : event.isBind = false) : (host.step event).Settled := by
  intro id after location alive placed
  obtain ⟨known, origin⟩ := placed_step tidy coherent event allowed placed
  obtain ⟨before, existed, evolves⟩ := evolves_step coherent event known alive
  rw [evolves.isInitialised]
  obtain old | new := origin
  · rw [settled id before location existed old]
    rfl
  · rw [new, Bool.or_true]

theorem settled_run (made : Machine.new config = .ok machine) {events : List Event}
    (allowed : ∀ event ∈ events, event.isBind = false) : (run { machine } events).Settled := by
  have start : Coherent config { machine } ∧ Tidy { machine } ∧ Settled { machine } := by
    have tidy : (run { machine } []).Tidy := tidy_run made (List.forall_mem_nil _)
    refine ⟨coherent_start made, tidy, ?_⟩
    obtain ⟨_, _, rfl⟩ := map_eq_ok_iff.mp made
    intro id entry location _ placed
    cases placed
  have kept := run_invariant
    (fun host => host.Coherent config ∧ host.Tidy ∧ host.Settled)
    (fun event => event.isBind = false) start
    (fun _ event free ⟨coherent, tidy, settled⟩ => ⟨coherent.step event,
      tidy.step coherent event free, settled.step tidy coherent event free⟩)
    allowed
  exact kept.2.2

/-- What finalising a module leaves alone, and what it does not. -/
structure Undisturbed (host : Host) (unit : Module) (after : Machine) : Prop where
  /-- A byte that changes belongs to a variable of the module with an initializer, in storage that
  was free before. -/
  written : ∀ address : UInt64,
    after.memory.read address 1 ≠ host.machine.memory.read address 1 →
    ∃ id ∈ unit.globals, ∃ entry symbol location, after.Assigns id entry symbol location ∧
      Region.Contains ⟨location.toNat, entry.ty.byteSize⟩ address.toNat ∧
      host.machine.memory.next ≤ location.toNat ∧
      location.toNat + entry.storageSize ≤ after.memory.next
  /-- Memory does not grow, and the stacks, the buffers and the objects are the same. -/
  base : after.memory.base = host.machine.memory.base
  size : after.memory.size = host.machine.memory.size
  threads : after.threadStacks = host.machine.threadStacks
  others : after.config = host.machine.config ∧ after.buffers = host.machine.buffers ∧
    after.objects = host.machine.objects
  /-- Entries and places of globals outside the module stay, and so does every place that was given
  out before. -/
  entries : ∀ id, id ∉ unit.globals → after.globals.get? id = host.machine.globals.get? id
  locations : ∀ id, id ∉ unit.globals → after.locations.get? id = host.machine.locations.get? id
  places : ∀ id location, host.machine.locations.get? id = some location →
    after.locations.get? id = some location
  /-- Whoever was given storage before has it still, with all that is stored there. -/
  regions : ∀ holder region, host.region? holder = some region →
    region? { host with machine := after } holder = some region ∧
      ∀ (address : UInt64) (length : Nat), region.start ≤ address.toNat →
        address.toNat + length ≤ region.stop →
        after.memory.read address length = host.machine.memory.read address length
  /-- A variable that had a place has the same value, whatever its load was used for before. -/
  direct : ∀ id entry, host.declared[id.index]? = some entry → entry.kind.isAlias = false →
    (host.machine.locations.get? id).isSome → ∀ load, DirectLoad.Reached id entry.ty load →
      (load.execute after).1 = (load.execute host.machine).1
  /-- So does every load of native memory whose bytes lie in storage that was given out before. -/
  loads : ∀ holder region, host.region? holder = some region →
    ∀ (kind : LoadKind) history (address : Address) location,
      address.toNative host.machine = .ok location → region.start ≤ location.toNat →
      location.toNat + kind.footprint ≤ region.stop →
      ((LoadSite.after { kind } history).execute after address).1 =
        ((LoadSite.after { kind } history).execute host.machine address).1

/-- A global that has a place is not one that a module can be finalised with. -/
theorem Settled.not_mem_of_placed (settled : host.Settled) {unit : Module}
    (owned : unit.Owned host.machine.globals) (checked : unit.Checked host.machine) {id : GlobalId}
    {location : UInt64} (placed : host.machine.locations.get? id = some location) :
    id ∉ unit.globals := by
  intro own
  obtain ⟨entry, alive⟩ := Option.isSome_iff_exists.mp (owned.alive id own)
  have started := settled id entry location alive placed
  rw [checked.uninitialised id entry ⟨own, alive⟩] at started
  cases started

section Finalised

variable {unit : Module} {after : Machine} (finalised : unit.Finalised host.machine after)
include finalised

/-- Storage that was handed out ends before anything that is written. -/
theorem Tidy.read_eq (tidy : host.Tidy) {holder : Holder} {region : Region}
    (held : host.region? holder = some region) {address : UInt64} {length : Nat}
    (below : address.toNat + length ≤ region.stop) :
    after.memory.read address length = host.machine.memory.read address length := by
  have bound := (tidy.inside holder region held).2
  exact finalised.read_below (Nat.le_trans below bound)

variable (elsewhere : ∀ id location, host.machine.locations.get? id = some location →
  id ∉ unit.globals)
include elsewhere

theorem get?_of_placed {id : GlobalId} {location : UInt64}
    (placed : host.machine.locations.get? id = some location) :
    after.locations.get? id = some location := by
  rw [finalised.others id (elsewhere id location placed)]
  exact placed

theorem region?_of_finalised {holder : Holder} {region : Region}
    (held : host.region? holder = some region) :
    region? { host with machine := after } holder = some region := by
  cases holder with
  | allocation index => exact held
  | stack thread =>
      have owners : after.threadStacks = host.machine.threadStacks :=
        (congrArg Machine.threadStacks finalised.frame :)
      rw [region?, Machine.stack?, owners]
      exact held
  | global id =>
      obtain ⟨entry, location, declared, isVariable, placed, rfl⟩ := storage?_eq_some_iff.mp held
      exact storage?_eq_some_iff.mpr
        ⟨entry, location, declared, isVariable, get?_of_placed finalised elsewhere placed, rfl⟩

/-- A direct load reads no further than the variable, which is in storage from before. -/
theorem Tidy.direct_eq (tidy : host.Tidy) {id : GlobalId} {entry : GlobalEntry}
    (declared : host.declared[id.index]? = some entry) (isVariable : entry.kind.isAlias = false)
    (hasPlace : (host.machine.locations.get? id).isSome) {load : DirectLoad}
    (reached : DirectLoad.Reached id entry.ty load) :
    (load.execute after).1 = (load.execute host.machine).1 := by
  obtain ⟨location, placed⟩ := Option.isSome_iff_exists.mp hasPlace
  obtain ⟨kind, loads, executed⟩ := reached.execute_eq placed
  obtain ⟨kind', loads', executed'⟩ :=
    reached.execute_eq (get?_of_placed finalised elsewhere placed)
  obtain rfl := Except.ok.inj (loads.symm.trans loads')
  rw [executed, executed']
  apply kind.readNative_congr
  have storage : host.region? (.global id) = some ⟨location.toNat, entry.storageSize⟩ :=
    storage?_eq_some_iff.mpr ⟨entry, location, declared, isVariable, placed, rfl⟩
  apply tidy.read_eq finalised storage
  have part := LoadKind.footprint_le_byteSize loads
  have fill := entry.byteSize_le_storageSize
  show location.toNat + kind.footprint ≤ location.toNat + entry.storageSize
  omega

theorem undisturbed_of_finalised (tidy : host.Tidy) : host.Undisturbed unit after := by
  have frame := finalised.frame
  refine ⟨fun _ => finalised.written, finalised.base, finalised.size,
    (congrArg Machine.threadStacks frame :), ?_, fun _ => finalised.get?_of_not_mem,
    finalised.others, fun _ _ => get?_of_placed finalised elsewhere, ?_, ?_, ?_⟩
  · exact ⟨(congrArg Machine.config frame :), (congrArg Machine.buffers frame :),
      (congrArg Machine.objects frame :)⟩
  · intro holder region held
    refine ⟨region?_of_finalised finalised elsewhere held, ?_⟩
    intro address length _ below
    exact tidy.read_eq finalised held below
  · intro id entry declared isVariable hasPlace load reached
    exact tidy.direct_eq finalised elsewhere declared isVariable hasPlace reached
  · intro holder region held kind history address location place _ below
    obtain ⟨result, _⟩ := LoadSite.execute_after kind history host.machine address
    obtain ⟨result', _⟩ := LoadSite.execute_after kind history after address
    rw [result, result']
    apply kind.load_congr place
    · exact address.toNative_mono (fun _ _ => get?_of_placed finalised elsewhere) place
    · exact tidy.read_eq finalised held below

end Finalised

/-- Finalising a module disturbs nothing else, after any history in which the host places no global
by itself. -/
theorem finalize_disturbs_nothing_else (made : Machine.new config = .ok machine)
    (events : List Event) (allowed : ∀ event ∈ events, event.isBind = false) {unit : Module}
    (member : unit ∈ (run { machine } events).modules) {after : Machine}
    (succeeded : (Machine.finalize unit).on (run { machine } events).machine = (.ok (), after)) :
    (run { machine } events).Undisturbed unit after := by
  have coherent := coherent_run made events
  have owned := coherent.owned unit member
  obtain ⟨admissible, _, ran, finalised⟩ | ⟨_, fault, stop, ran, _⟩ :=
    Machine.finalize_cases owned coherent.sound
  · rw [ran] at succeeded
    cases succeeded
    refine undisturbed_of_finalised finalised ?_ (tidy_run made allowed)
    intro id location placed
    exact (settled_run made allowed).not_mem_of_placed owned admissible.toChecked placed
  · rw [ran] at succeeded
    cases succeeded

namespace Sample

/-- After the numbers were finalised, another module declares a byte. -/
def extended : List Event :=
  events ++ [.finalize 0, .newModule "labels",
    .declare (some 2) (.varDecl false) (.int 8) 0 (some 1), .addSymbol 2 (.integer (.int 8) 5)]

def labels : Module where
  name := "labels"
  globals := [⟨5⟩]
  symbols := [.integer (.int 8) 5]

end Sample

/-- The byte is written right behind the numbers, and the number in front of it reads as before. -/
theorem sample_undisturbed :
    ∃ after load, (Machine.finalize Sample.labels).on
        (run { machine := .start Sample.config } Sample.extended).machine = (.ok (), after) ∧
      (run { machine := .start Sample.config } Sample.extended).Undisturbed Sample.labels after ∧
      after.locations.get? ⟨2⟩ = some 0x128 ∧ after.locations.get? ⟨5⟩ = some 0x12a ∧
      DirectLoad.new after.globals ⟨2⟩ = .ok load ∧
      (load.execute after).1 = .ok (.scalar (.varInt (.ofInt64 12 (-2)))) := by
  have member : Sample.labels ∈ (run { machine := .start Sample.config } Sample.extended).modules :=
    List.mem_of_getElem? (rfl : _[2]? = _)
  have undisturbed := finalize_disturbs_nothing_else Sample.made Sample.extended (by decide) member
    rfl
  exact ⟨_, _, rfl, undisturbed, rfl, rfl, rfl, rfl⟩

end Host

end IrMachine
