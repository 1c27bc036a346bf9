import IrMachine.Proofs.Finalize.Commit

/-!
# What finalising a module does

`Module.Finalised` relates the machine before and after a module was finalised, and
`Machine.finalize_cases` says that finalising ends in such a machine if the module passes the check
and there is room for its variables. Otherwise it fails, and then nothing has changed but how much
of the memory counts as handed out.
-/

namespace IrMachine

namespace Module

variable {unit : Module} {table : GlobalTable}

/-- The alias shows what its entry stores once it is settled, also to the search that looks at the
module's own initializers first. -/
theorem initializerOf_settled {id : GlobalId} {entry : GlobalEntry}
    (alive : table.get? id = some entry) :
    GlobalTable.initializerOf (unit.pending table) id (unit.settled id entry) =
      unit.symbolOf id entry := by
  rw [GlobalTable.initializerOf, lookup_pending, symbolOf, settled]
  by_cases own : id ∈ unit.globals
  · simp [own, alive]
  · simp [own]

section Settled

variable {globals : GlobalTable}
variable (entries : ∀ id, globals.get? id = (table.get? id).map (unit.settled id))
include entries

theorem get?_of_settled {id : GlobalId} {entry : GlobalEntry}
    (alive : globals.get? id = some entry) :
    ∃ before, table.get? id = some before ∧ unit.settled id before = entry := by
  rw [entries] at alive
  exact Option.map_eq_some_iff.mp alive

theorem declares_of_settled {id : GlobalId} {entry : GlobalEntry}
    (declared : unit.Declares globals id entry) :
    ∃ before, unit.Declares table id before ∧ unit.settled id before = entry := by
  obtain ⟨before, alive, settled⟩ := get?_of_settled entries declared.2
  exact ⟨before, ⟨declared.1, alive⟩, settled⟩

end Settled

/-- What is asked of a module: it passes the check, and taken in the order of their declarations,
all of its variables have places. -/
structure WellFormed (unit : Module) (machine : Machine) : Prop extends unit.Checked machine where
  places : machine.memory.HasPlaces ((unit.layouts machine.globals).map Prod.snd)

/-- What makes a module acceptable: it is well-formed, and no sum on the way to its places leaves
the words. -/
structure Admissible (unit : Module) (machine : Machine) : Prop
    extends unit.WellFormed machine where
  sums : machine.memory.SumsFit ((unit.layouts machine.globals).map Prod.snd)

/-- All that is known of a module when its storage has been handed out. -/
structure Reserved (unit : Module) (machine : Machine) (places : List (GlobalId × UInt64))
    (stop : Nat) : Prop where
  owned : unit.Owned machine.globals
  sound : machine.memory.Sound
  checked : unit.Checked machine
  served : Served machine.memory.next (unit.layouts machine.globals) places stop
  below : stop ≤ machine.memory.base.toNat + machine.memory.size

/-- Entries and places of globals after a module was linked into storage that ends at `stop`. -/
structure Linked (unit : Module) (before : Machine) (stop : Nat) (globals : GlobalTable)
    (locations : Locations) : Prop where
  /-- No entry appears or disappears. -/
  count : globals.entries.size = before.globals.entries.size
  /-- The module's entries are resolved, and no other entry changes. -/
  entries : ∀ id, globals.get? id = (before.globals.get? id).map (unit.settled id)
  /-- Every variable is given a place in what was free before, apart from all others. -/
  places : ∀ id entry, unit.Declares before.globals id entry → entry.kind.isAlias = false →
    ∃ location, locations.get? id = some location ∧ before.memory.next ≤ location.toNat ∧
      location.toNat + entry.storageSize ≤ stop ∧ max entry.storageAlignment 1 ∣ location.toNat
  apart : ∀ id entry location, unit.Declares before.globals id entry →
    entry.kind.isAlias = false → locations.get? id = some location →
    ∀ id' entry' location', unit.Declares before.globals id' entry' →
    entry'.kind.isAlias = false → locations.get? id' = some location' → id ≠ id' →
      Region.Apart ⟨location.toNat, entry.storageSize⟩ ⟨location'.toNat, entry'.storageSize⟩
  aliases : ∀ id entry, unit.Declares before.globals id entry → entry.kind.isAlias = true →
    Machine.SharesPlace globals (fun _ entry => entry.value?) locations id
  others : ∀ id, id ∉ unit.globals → locations.get? id = before.locations.get? id

/-- A machine before and after a module was finalised. -/
structure Finalised (unit : Module) (before after : Machine) : Prop
    extends Linked unit before after.memory.next after.globals after.locations where
  frame : after = { before with
    memory := after.memory, globals := after.globals, locations := after.locations }
  base : after.memory.base = before.memory.base
  size : after.memory.size = before.memory.size
  next_le : before.memory.next ≤ after.memory.next
  room : after.memory.next ≤ after.memory.base.toNat + after.memory.size
  writable : ∀ id ∈ unit.globals, ∀ entry symbol location,
    after.Assigns id entry symbol location → after.Writable entry symbol location
  /-- Every variable with an initializer holds it, and all other bytes are as before. -/
  holds : ∀ id ∈ unit.globals, ∀ entry symbol location, after.Assigns id entry symbol location →
    after.memory.read location entry.ty.byteSize = .ok (symbol.encoding after.placeOf entry.ty)
  kept : ∀ (query : UInt64) (length : Nat),
    (∀ id ∈ unit.globals, ∀ entry symbol location, after.Assigns id entry symbol location →
      Region.Apart ⟨query.toNat, length⟩ ⟨location.toNat, entry.ty.byteSize⟩) →
    after.memory.read query length = before.memory.read query length

namespace Reserved

variable {machine : Machine} {places : List (GlobalId × UInt64)} {stop : Nat}

/-- Every variable was served with a place of the size and alignment it needs. -/
theorem lookup_variable (reserved : unit.Reserved machine places stop) {id : GlobalId}
    {entry : GlobalEntry} (declared : unit.Declares machine.globals id entry)
    (isVariable : entry.kind.isAlias = false) :
    ∃ location, places.lookup id = some location ∧ machine.memory.next ≤ location.toNat ∧
      location.toNat + entry.storageSize ≤ stop ∧ max entry.storageAlignment 1 ∣ location.toNat :=
  reserved.served.lookup_of_mem (nodup_layouts reserved.owned.nodup)
    (mem_layouts_iff.mpr ⟨entry, declared, isVariable, rfl, rfl⟩)

/-- Nothing but a variable of the module was served. -/
theorem lookup_other (reserved : unit.Reserved machine places stop) {id : GlobalId}
    (other : ∀ entry, unit.Declares machine.globals id entry → entry.kind.isAlias = true) :
    places.lookup id = none := by
  apply reserved.served.lookup_eq_none
  intro member
  obtain ⟨⟨_, size, align⟩, layout, rfl⟩ := List.mem_map.mp member
  obtain ⟨entry, declared, isVariable, _⟩ := mem_layouts_iff.mp layout
  rw [other entry declared] at isVariable
  cases isVariable

theorem lookup_apart (reserved : unit.Reserved machine places stop) {id id' : GlobalId}
    {entry entry' : GlobalEntry} {location location' : UInt64}
    (declared : unit.Declares machine.globals id entry) (isVariable : entry.kind.isAlias = false)
    (declared' : unit.Declares machine.globals id' entry')
    (isVariable' : entry'.kind.isAlias = false) (different : id ≠ id')
    (placed : places.lookup id = some location) (placed' : places.lookup id' = some location') :
    Region.Apart ⟨location.toNat, entry.storageSize⟩ ⟨location'.toNat, entry'.storageSize⟩ :=
  reserved.served.apart (nodup_layouts reserved.owned.nodup)
    (mem_layouts_iff.mpr ⟨entry, declared, isVariable, rfl, rfl⟩)
    (mem_layouts_iff.mpr ⟨entry', declared', isVariable', rfl, rfl⟩) different placed placed'

end Reserved

namespace Linked

variable {machine : Machine} {places : List (GlobalId × UInt64)} {stop : Nat}
variable {globals : GlobalTable} {locations : Locations}

/-- Whatever a module's initializers may refer to has a place after the module was linked. -/
theorem isSome_of_places (linked : unit.Linked machine stop globals locations) {id : GlobalId}
    (alive : (machine.globals.get? id).isSome) (placed : unit.Places machine id) :
    (locations.get? id).isSome := by
  by_cases own : id ∈ unit.globals
  · obtain ⟨entry, found⟩ := Option.isSome_iff_exists.mp alive
    cases isAlias : entry.kind.isAlias with
    | false =>
        obtain ⟨location, here, _⟩ := linked.places id entry ⟨own, found⟩ isAlias
        exact Option.isSome_of_eq_some here
    | true =>
        obtain ⟨_, _, location, _, _, _, here⟩ := linked.aliases id entry ⟨own, found⟩ isAlias
        exact Option.isSome_of_eq_some here
  · rw [linked.others id own]
    exact placed.resolve_left own

/-- A variable of the module with its symbol is one that was checked, in storage of its own. -/
theorem assigns_cases (linked : unit.Linked machine stop globals locations) {id : GlobalId}
    {entry : GlobalEntry} {symbol : Symbol} {location : UInt64} (own : id ∈ unit.globals)
    (assigns : ({ machine.taken stop with globals, locations } : Machine).Assigns id entry symbol
      location) :
    ∃ before, unit.Declares machine.globals id before ∧ before.kind.isAlias = false ∧
      unit.initializer? before = some symbol ∧ before.ty = entry.ty ∧
      locations.get? id = some location := by
  obtain ⟨before, declared, rfl⟩ := declares_of_settled linked.entries ⟨own, assigns.alive⟩
  have isVariable := assigns.isVariable
  have resolved := assigns.resolved
  rw [settled_kind] at isVariable
  rw [settled_value?, symbolOf, if_pos own] at resolved
  exact ⟨before, declared, isVariable, resolved, (settled_ty ..).symm, assigns.placed⟩

theorem assigns_apart (linked : unit.Linked machine stop globals locations) {id id' : GlobalId}
    (own : id ∈ unit.globals) (own' : id' ∈ unit.globals) (different : id ≠ id')
    {entry entry' : GlobalEntry} {symbol symbol' : Symbol} {location location' : UInt64}
    (assigns : ({ machine.taken stop with globals, locations } : Machine).Assigns id entry symbol
      location)
    (assigns' : ({ machine.taken stop with globals, locations } : Machine).Assigns id' entry'
      symbol' location') :
    Region.Apart ⟨location.toNat, entry.ty.byteSize⟩ ⟨location'.toNat, entry'.ty.byteSize⟩ := by
  obtain ⟨before, declared, isVariable, _, ty, placed⟩ := linked.assigns_cases own assigns
  obtain ⟨before', declared', isVariable', _, ty', placed'⟩ := linked.assigns_cases own' assigns'
  rw [← ty, ← ty']
  exact (linked.apart id before location declared isVariable placed id' before' location' declared'
    isVariable' placed' different).mono before.byteSize_le_storageSize
      before'.byteSize_le_storageSize

theorem writable (linked : unit.Linked machine stop globals locations)
    (reserved : unit.Reserved machine places stop) {id : GlobalId} {entry : GlobalEntry}
    {symbol : Symbol} {location : UInt64} (own : id ∈ unit.globals)
    (assigns : ({ machine.taken stop with globals, locations } : Machine).Assigns id entry symbol
      location) :
    ({ machine.taken stop with globals, locations } : Machine).Writable entry symbol location := by
  obtain ⟨before, declared, isVariable, initializer, ty, placed⟩ := linked.assigns_cases own assigns
  have checked := reserved.checked
  refine ⟨?_, ?_, ?_, ?_⟩
  · rw [← ty]
    exact checked.fitting id before declared isVariable symbol initializer
  · rw [← ty]
    exact checked.sized id before declared isVariable
  · rintro target rfl
    obtain ⟨alive, targetPlaced⟩ :=
      checked.references id before declared isVariable target initializer
    refine ⟨?_, linked.isSome_of_places alive targetPlaced⟩
    simpa [linked.entries] using alive
  · obtain ⟨found, here, above, inside, _⟩ := linked.places id before declared isVariable
    obtain rfl := Option.some.inj (here.symm.trans placed)
    have low := reserved.sound.base_le_next
    have high := reserved.below
    have fill : entry.ty.byteSize ≤ before.storageSize := ty ▸ before.byteSize_le_storageSize
    apply NativeMemory.contains_iff.mpr
    change machine.memory.base.toNat ≤ found.toNat ∧
      found.toNat + entry.ty.byteSize ≤ machine.memory.base.toNat + machine.memory.size
    omega

end Linked

end Module

namespace Machine

variable {machine : Machine} {unit : Module} {places : List (GlobalId × UInt64)} {stop : Nat}

/-- The first three loops settle the entries and places of the module's globals. -/
theorem link_ok (reserved : unit.Reserved machine places stop) :
    ∃ globals locations, unit.Linked machine stop globals locations ∧
      (commit unit (unit.pending machine.globals) places).on (machine.taken stop) =
        (unit.globals.forM materialise).on { machine.taken stop with globals, locations } := by
  have checked := reserved.checked
  obtain ⟨bound, bindRan, bindLooked⟩ := bindPlaces_ok (machine.taken stop)
    (reserved.served.keys ▸ Module.nodup_layouts reserved.owned.nodup)
  obtain ⟨globals, initialiseRan, count, entries⟩ :=
    initialiseAll_ok { machine.taken stop with locations := bound } reserved.owned
      fun id entry declared =>
        ⟨checked.uninitialised id entry declared, checked.slots id entry declared⟩
  change globals.entries.size = machine.globals.entries.size at count
  change ∀ id, globals.get? id = (machine.globals.get? id).map (unit.settled id) at entries
  change ∀ id, bound.get? id = (places.lookup id).or (machine.locations.get? id) at bindLooked
  have targets : ∀ id entry, unit.Declares globals id entry → entry.kind.isAlias = true →
      ∃ count last, count ≤ 64 ∧ AliasChain globals
        (GlobalTable.initializerOf (unit.pending machine.globals)) count id last ∧
        (bound.get? last).isSome := by
    intro id _ again isAlias
    obtain ⟨entry, declared, rfl⟩ := Module.declares_of_settled entries again
    rw [Module.settled_kind] at isAlias
    obtain ⟨count, last, short, chain, placed⟩ := checked.aliases id entry declared isAlias
    obtain ⟨final, lastAlive, isVariable⟩ := chain.isVariable_last
    refine ⟨count, last, short, ?_, ?_⟩
    · apply chain.transport
      intro id entry alive
      exact ⟨unit.settled id entry, by rw [entries, alive]; rfl, Module.settled_kind ..,
        Module.initializerOf_settled alive⟩
    · rw [bindLooked]
      rcases placed with own | already
      · obtain ⟨location, served, _⟩ := reserved.lookup_variable ⟨own, lastAlive⟩ isVariable
        simp [served]
      · simp [already]
  have alive' : ∀ id ∈ unit.globals, (globals.get? id).isSome := by
    intro id member
    simpa [entries] using reserved.owned.alive id member
  obtain ⟨locations, aliasRan, aliasKept, shared⟩ :=
    bindAliases_ok { machine.taken stop with globals, locations := bound } alive' targets
  have placed : ∀ id entry, unit.Declares machine.globals id entry → entry.kind.isAlias = false →
      locations.get? id = places.lookup id := by
    intro id entry declared isVariable
    obtain ⟨location, served, _⟩ := reserved.lookup_variable declared isVariable
    rw [aliasKept id, bindLooked, served]
    · rfl
    · intro _ again
      obtain ⟨entry', declared', rfl⟩ := Module.declares_of_settled entries again
      rw [Module.settled_kind, Option.some.inj (declared'.2.symm.trans declared.2)]
      exact isVariable
  refine ⟨globals, locations, ⟨count, entries, ?_, ?_, ?_, ?_⟩, ?_⟩
  · intro id entry declared isVariable
    rw [placed id entry declared isVariable]
    exact reserved.lookup_variable declared isVariable
  · intro id entry location declared isVariable here id' entry' location' declared' isVariable'
      there different
    rw [placed id entry declared isVariable] at here
    rw [placed id' entry' declared' isVariable'] at there
    exact reserved.lookup_apart declared isVariable declared' isVariable' different here there
  · intro id entry declared isAlias
    obtain ⟨count, last, location, short, chain, lastPlaced, idPlaced⟩ :=
      shared id (unit.settled id entry) ⟨declared.1, by simp [entries, declared.2]⟩
        (by rw [Module.settled_kind]; exact isAlias)
    refine ⟨count, last, location, short, ?_, lastPlaced, idPlaced⟩
    apply chain.transport
    intro id _ alive
    obtain ⟨entry, before, rfl⟩ := Module.get?_of_settled entries alive
    exact ⟨_, alive, rfl, by rw [Module.settled_value?, Module.initializerOf_settled before]⟩
  · intro id foreign
    rw [aliasKept id fun _ declared => absurd declared.1 foreign, bindLooked,
      reserved.lookup_other fun _ declared => absurd declared.1 foreign]
    rfl
  · rw [commit, Run.on_bind_ok bindRan, Run.on_bind_ok initialiseRan, Run.on_bind_ok aliasRan]

/-- Once storage was handed out, all that is left to do succeeds. -/
theorem commit_ok (reserved : unit.Reserved machine places stop) :
    ∃ after, (commit unit (unit.pending machine.globals) places).on (machine.taken stop) =
        (.ok (), after) ∧ unit.Finalised machine after := by
  obtain ⟨globals, locations, linked, ran⟩ := link_ok reserved
  have owned : unit.Owned globals := by
    refine ⟨reserved.owned.nodup, ?_⟩
    intro id member
    simpa [linked.entries] using reserved.owned.alive id member
  have placed : ∀ id entry, unit.Declares globals id entry → entry.kind.isAlias = false →
      (locations.get? id).isSome := by
    intro id _ again isVariable
    obtain ⟨entry, declared, rfl⟩ := Module.declares_of_settled linked.entries again
    rw [Module.settled_kind] at isVariable
    obtain ⟨location, here, _⟩ := linked.places id entry declared isVariable
    exact Option.isSome_of_eq_some here
  obtain ⟨memory, wrote, written⟩ :=
    materialiseAll_ok { machine.taken stop with globals, locations } owned placed
      (fun id own entry symbol location => linked.writable reserved own)
      fun id own id' own' different entry symbol location assigns entry' symbol' location' =>
        linked.assigns_apart own own' different assigns
  have next : memory.next = stop := written.next
  have base : memory.base = machine.memory.base := written.base
  have size : memory.size = machine.memory.size := written.size
  refine ⟨{ machine.taken stop with globals, locations, memory }, by rw [ran]; exact wrote, ?_⟩
  constructor
  · change unit.Linked machine memory.next globals locations
    rw [next]
    exact linked
  · rfl
  · exact base
  · exact size
  · change machine.memory.next ≤ memory.next
    rw [next]
    exact reserved.served.next_le_stop
  · change memory.next ≤ memory.base.toNat + memory.size
    rw [next, base, size]
    exact reserved.below
  · intro id own entry symbol location assigns
    obtain ⟨fits, sized, references, inside⟩ := linked.writable reserved own (assigns.congr rfl rfl)
    refine ⟨fits, sized, references, ?_⟩
    change memory.contains location.toNat entry.ty.byteSize = true
    rw [NativeMemory.contains, base, size]
    exact inside
  · intro id own entry symbol location assigns
    exact written.holds id own entry symbol location (assigns.congr rfl rfl)
  · intro query length outside
    exact written.kept query length fun id own entry symbol location assigns =>
      outside id own entry symbol location (assigns.congr rfl rfl)

theorem finalize_of_refused {fault : Fault} (verdict : machine.checkModule unit = .error fault) :
    (finalize unit).on machine = (.error fault, machine) := by
  simp only [finalize, Run.on_bind, Run.on_get, Run.on_ofExcept, verdict]

theorem finalize_of_checked {pending : Initializers} {layouts : List (GlobalId × Nat × Nat)}
    (verdict : machine.checkModule unit = .ok (pending, layouts)) :
    (finalize unit).on machine =
      (do commit unit pending (← reserve layouts) : Run Unit).on machine := by
  rw [finalize, Run.on_bind_ok (Run.on_get machine), Run.on_bind, Run.on_ofExcept, verdict]

/-- Finalising is the check, then handing out storage, and then steps that cannot fail. -/
theorem finalize_cases (owned : unit.Owned machine.globals) (sound : machine.memory.Sound) :
    (unit.Admissible machine ∧
      ∃ after, (finalize unit).on machine = (.ok (), after) ∧ unit.Finalised machine after) ∨
    (¬ unit.Admissible machine ∧
      ∃ fault stop, (finalize unit).on machine = (.error fault, machine.taken stop) ∧
        machine.memory.next ≤ stop ∧ stop ≤ machine.memory.base.toNat + machine.memory.size ∧
        (unit.WellFormed machine → fault = .overflow)) := by
  cases verdict : machine.checkModule unit with
  | error fault =>
      have unchecked : ¬ unit.Checked machine := by
        intro checked
        rw [(checkModule_eq_ok_iff owned).mpr ⟨checked, rfl⟩] at verdict
        cases verdict
      exact .inr ⟨fun admissible => unchecked admissible.toChecked, fault, machine.memory.next,
        finalize_of_refused verdict, Nat.le_refl _, sound.next_le_end,
        fun wellFormed => absurd wellFormed.toChecked unchecked⟩
  | ok answer =>
      obtain ⟨checked, rfl⟩ := (checkModule_eq_ok_iff owned).mp verdict
      have opened := finalize_of_checked verdict
      rcases reserve_cases sound (unit.layouts machine.globals) with
        ⟨room, places, stop, ran, served, below⟩ | ⟨full, fault, stop, ran, above, below, cause⟩
      · obtain ⟨after, committed, finalised⟩ := commit_ok ⟨owned, sound, checked, served, below⟩
        obtain ⟨places, sums⟩ := NativeMemory.hasRoom_iff.mp room
        refine .inl ⟨⟨⟨checked, places⟩, sums⟩, after, ?_, finalised⟩
        rw [opened, Run.on_bind_ok ran, committed]
      · refine .inr ⟨?_, fault, stop, ?_, above, below, fun wellFormed => cause wellFormed.places⟩
        · intro admissible
          exact full (NativeMemory.hasRoom_iff.mpr ⟨admissible.places, admissible.sums⟩)
        · rw [opened, Run.on_bind_error ran]

end Machine

end IrMachine
