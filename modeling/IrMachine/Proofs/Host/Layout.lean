import IrMachine.Proofs.Host.Coherent
import IrMachine.Proofs.TypeLayout

/-!
# Storage never overlaps

A host's own allocations, the stacks of its threads and the places of its variables all come out of
one memory, which is handed out from below and never taken back. `Holder` names them all, and
`Host.region?` says what each of them has. Whatever is handed out starts where all that was handed
out before has ended, so one lemma about growth (`Host.Laid.grow`) carries every event.

The places that a host chooses by itself, with `bind`, are its own business.
-/

namespace IrMachine

theorem GlobalEntry.storageAlignment_pos (entry : GlobalEntry) : 0 < entry.storageAlignment := by
  rw [storageAlignment]
  split
  · exact entry.ty.alignment_pos
  · omega

/-- What has storage of its own. -/
inductive Holder where
  /-- The host, for one of its allocations. -/
  | allocation (index : Nat)
  | stack (thread : ThreadId)
  | global (id : GlobalId)
deriving DecidableEq

namespace Host

def storage? (host : Host) (id : GlobalId) : Option Region :=
  match host.declared[id.index]?, host.machine.locations.get? id with
  | some entry, some location =>
      if entry.kind.isAlias then none else some ⟨location.toNat, entry.storageSize⟩
  | _, _ => none

def region? (host : Host) : Holder → Option Region
  | .allocation index => host.allocations[index]?
  | .stack thread => (host.machine.stack? thread).map fun stack =>
      ⟨stack.base.toNat, stack.top.toNat - stack.base.toNat⟩
  | .global id => host.storage? id

theorem storage?_eq_some_iff {host : Host} {id : GlobalId} {region : Region} :
    host.storage? id = some region ↔
      ∃ entry location, host.declared[id.index]? = some entry ∧ entry.kind.isAlias = false ∧
        host.machine.locations.get? id = some location ∧
        region = ⟨location.toNat, entry.storageSize⟩ := by
  rw [storage?]
  cases host.declared[id.index]? with
  | none => simp
  | some entry =>
      cases host.machine.locations.get? id with
      | none => simp
      | some location =>
          cases isAlias : entry.kind.isAlias with
          | true => simp [isAlias]
          | false =>
              simp only [isAlias, Bool.false_eq_true, if_false, Option.some.injEq]
              constructor
              · rintro rfl
                exact ⟨entry, location, rfl, isAlias, rfl, rfl⟩
              · rintro ⟨entry, location, rfl, _, rfl, rfl⟩
                rfl

/-- All storage lies in what was handed out, apart from all other storage. -/
structure Laid (host : Host) : Prop where
  inside : ∀ holder region, host.region? holder = some region →
    host.machine.memory.base.toNat ≤ region.start ∧ region.stop ≤ host.machine.memory.next
  apart : ∀ holder region, host.region? holder = some region →
    ∀ holder' region', host.region? holder' = some region' → holder ≠ holder' →
      region.Apart region'

variable {host after : Host}

/-- Storage stays laid out when memory is handed out: each holder has what it had or something that
was free, and no two holders are given the same. -/
theorem Laid.grow (laid : host.Laid)
    (base : after.machine.memory.base = host.machine.memory.base)
    (low : host.machine.memory.base.toNat ≤ host.machine.memory.next)
    (later : host.machine.memory.next ≤ after.machine.memory.next)
    (origin : ∀ holder region, after.region? holder = some region →
      host.region? holder = some region ∨
        (host.machine.memory.next ≤ region.start ∧ region.stop ≤ after.machine.memory.next))
    (fresh : ∀ holder region, after.region? holder = some region →
      host.region? holder ≠ some region →
      ∀ holder' region', after.region? holder' = some region' →
      host.region? holder' ≠ some region' → holder ≠ holder' → region.Apart region') :
    after.Laid := by
  constructor
  · intro holder region held
    rw [base]
    rcases origin holder region held with old | new
    · have inside := laid.inside holder region old
      omega
    · omega
  · intro holder region held holder' region' held' different
    by_cases old : host.region? holder = some region
    · by_cases old' : host.region? holder' = some region'
      · exact laid.apart holder region old holder' region' old' different
      · -- What was handed out before ends where free memory starts.
        have before := (laid.inside holder region old).2
        have new := (origin holder' region' held').resolve_left old'
        exact .inl (by omega)
    · have new := (origin holder region held).resolve_left old
      by_cases old' : host.region? holder' = some region'
      · have before := (laid.inside holder' region' old').2
        exact .inr (by omega)
      · exact fresh holder region held old holder' region' held' old' different

/-- Nothing new is handed out. -/
theorem Laid.keep (laid : host.Laid)
    (base : after.machine.memory.base = host.machine.memory.base)
    (later : host.machine.memory.next ≤ after.machine.memory.next)
    (old : ∀ holder region, after.region? holder = some region →
      host.region? holder = some region) : after.Laid := by
  constructor
  · intro holder region held
    have inside := laid.inside holder region (old holder region held)
    rw [base]
    omega
  · intro holder region held holder' region' held' different
    exact laid.apart holder region (old holder region held) holder' region'
      (old holder' region' held') different

/-- One holder is given free memory. -/
theorem Laid.add (laid : host.Laid) (owner : Holder) (region : Region)
    (base : after.machine.memory.base = host.machine.memory.base)
    (low : host.machine.memory.base.toNat ≤ host.machine.memory.next)
    (made : after.region? owner = some region)
    (free : host.machine.memory.next ≤ region.start)
    (fits : region.stop ≤ after.machine.memory.next)
    (others : ∀ holder, holder ≠ owner → after.region? holder = host.region? holder) :
    after.Laid := by
  have fill : region.start ≤ region.stop := Nat.le_add_right ..
  have owns : ∀ holder region, after.region? holder = some region →
      host.region? holder ≠ some region → holder = owner := by
    intro holder region held changed
    by_contra other
    exact changed (others holder other ▸ held)
  apply laid.grow base low (by omega)
  · intro holder region' held
    by_cases here : holder = owner
    · rw [here, made] at held
      obtain rfl := Option.some.inj held
      exact .inr ⟨free, fits⟩
    · exact .inl (others holder here ▸ held)
  · intro holder _ held changed holder' _ held' changed' different
    exact absurd ((owns _ _ held changed).trans (owns _ _ held' changed').symm) different

/-- Storage is laid out, and every piece of it has the shape that its holder asks for. -/
structure Tidy (host : Host) : Prop extends host.Laid where
  /-- Only what was declared has a place. -/
  known : ∀ id location, host.machine.locations.get? id = some location →
    id.index < host.declared.length
  shaped : ∀ thread stack, host.machine.stack? thread = some stack →
    stack.top.toNat = stack.base.toNat + host.machine.config.stackSize.toNat ∧
      Machine.stackAlignment ∣ stack.base.toNat
  aligned : ∀ id entry location, host.declared[id.index]? = some entry →
    entry.kind.isAlias = false → host.machine.locations.get? id = some location →
      entry.storageAlignment ∣ location.toNat
  /-- No thread is listed twice. -/
  single : (host.machine.threadStacks.map Prod.fst).Nodup

theorem Tidy.same (tidy : host.Tidy)
    (base : after.machine.memory.base = host.machine.memory.base)
    (later : host.machine.memory.next ≤ after.machine.memory.next)
    (config : after.machine.config = host.machine.config)
    (locations : after.machine.locations = host.machine.locations)
    (owners : after.machine.threadStacks = host.machine.threadStacks)
    (declared : after.declared = host.declared)
    (allocations : after.allocations = host.allocations) : after.Tidy := by
  have regions : ∀ holder, after.region? holder = host.region? holder := by
    intro holder
    cases holder with
    | allocation index => rw [region?, region?, allocations]
    | stack thread => rw [region?, region?, Machine.stack?, Machine.stack?, owners]
    | global id => rw [region?, region?, storage?, storage?, declared, locations]
  refine ⟨tidy.keep base later fun holder region held => regions holder ▸ held, ?_, ?_, ?_, ?_⟩
  · rw [locations, declared]
    exact tidy.known
  · rw [config]
    simp only [Machine.stack?, owners]
    exact tidy.shaped
  · rw [locations, declared]
    exact tidy.aligned
  · rw [owners]
    exact tidy.single

theorem nodup_setStack {machine : Machine} (single : (machine.threadStacks.map Prod.fst).Nodup)
    (thread : ThreadId) (stack : Stack) :
    ((machine.setStack thread stack).threadStacks.map Prod.fst).Nodup := by
  rw [Machine.setStack, List.map_cons, List.nodup_cons]
  constructor
  · intro again
    obtain ⟨⟨_, other⟩, kept, rfl⟩ := List.mem_map.mp again
    simp at kept
  · exact (List.filter_sublist.map _).nodup single

/-- A thread's stack is made out of free memory, or stays what it was. -/
theorem Tidy.stackFor (tidy : host.Tidy) (sound : host.machine.memory.Sound) (thread : ThreadId) :
    (host.after (Machine.stackFor thread)).Tidy := by
  rw [Host.after]
  rcases Machine.stackFor_cases sound thread with
    ⟨stack, _, ran⟩ | ⟨_, stack, start, top, below, ran⟩ | ⟨_, fault, ran⟩
  · rw [ran]
    exact tidy
  · rw [ran]
    have free := host.machine.memory.next_le_nextStart Machine.stackAlignment
    have aligned : Machine.stackAlignment ∣ stack.base.toNat := start ▸ Ty.dvd_roundUp ..
    have looked := (host.machine.taken stack.top.toNat).stack?_setStack thread
    refine ⟨tidy.add (.stack thread) ⟨stack.base.toNat, stack.top.toNat - stack.base.toNat⟩ rfl
      sound.base_le_next ?_ ?_ ?_ ?_, tidy.known, ?_, tidy.aligned,
      nodup_setStack tidy.single thread stack⟩
    · rw [region?, looked, if_pos rfl]
      rfl
    · change host.machine.memory.next ≤ stack.base.toNat
      omega
    · change stack.base.toNat + (stack.top.toNat - stack.base.toNat) ≤ stack.top.toNat
      omega
    · intro holder other
      cases holder with
      | allocation index => rfl
      | global id => rfl
      | stack thread' =>
          have different : thread' ≠ thread := by
            rintro rfl
            exact other rfl
          rw [region?, region?, looked, if_neg different]
          rfl
    · intro thread' stack' owned
      change
        ((host.machine.taken stack.top.toNat).setStack thread stack).stack? thread' = _ at owned
      rw [looked] at owned
      split at owned
      · obtain rfl := Option.some.inj owned
        exact ⟨top, aligned⟩
      · exact tidy.shaped thread' stack' owned
  · rw [ran]
    exact tidy

/-- Moving a stack pointer leaves the stack where it is. -/
theorem Tidy.setPointer (tidy : host.Tidy) {thread : ThreadId} {stack : Stack}
    (owned : host.machine.stack? thread = some stack) (pointer : UInt64) :
    Tidy { host with machine := host.machine.setStack thread { stack with pointer } } := by
  have looked := host.machine.stack?_setStack thread
  have regions : ∀ holder,
      region? { host with machine := host.machine.setStack thread { stack with pointer } } holder =
        host.region? holder := by
    intro holder
    cases holder with
    | allocation index => rfl
    | global id => rfl
    | stack thread' =>
        rw [region?, region?, looked]
        split
        · rename_i same
          rw [same, owned]
          rfl
        · rfl
  refine ⟨tidy.keep rfl (Nat.le_refl _) fun holder region held => regions holder ▸ held, tidy.known,
    ?_, tidy.aligned, nodup_setStack tidy.single thread _⟩
  · intro thread' stack' owned'
    change (host.machine.setStack thread _).stack? thread' = _ at owned'
    rw [looked] at owned'
    split at owned'
    · obtain rfl := Option.some.inj owned'
      exact tidy.shaped thread stack owned
    · exact tidy.shaped thread' stack' owned'

/-- Foreign code makes at most the stack of its own thread. -/
theorem Tidy.cross (tidy : host.Tidy) (sound : host.machine.memory.Sound) {thread : ThreadId}
    {machine : Machine} (crossing : Crossing thread host.machine machine) :
    Tidy { host with machine } := by
  induction crossing with
  | refl => exact tidy
  | objects objects crossing ih =>
      exact ih.same rfl (Nat.le_refl _) rfl rfl rfl rfl rfl
  | stack crossing ih => exact ih.stackFor (crossing.carries sound).sound thread
  | pointer pointer crossing owned ih =>
      exact ih.setPointer owned pointer

theorem Tidy.allocate (tidy : host.Tidy) (sound : host.machine.memory.Sound) (size align : Nat) :
    (host.allocate size align).Tidy := by
  rw [Host.allocate]
  rcases Machine.allocate_cases sound size align with
    ⟨_, address, start, ran⟩ | ⟨_, fault, _, ran⟩
  · rw [ran]
    have free := host.machine.memory.next_le_nextStart align
    refine ⟨tidy.add (.allocation host.allocations.length) ⟨address.toNat, size⟩ rfl
      sound.base_le_next ?_ ?_ (Nat.le_refl _) ?_, tidy.known, tidy.shaped, tidy.aligned,
      tidy.single⟩
    · simp [region?]
    · change host.machine.memory.next ≤ address.toNat
      omega
    · intro holder other
      cases holder with
      | allocation index =>
          have different : index ≠ host.allocations.length := by
            rintro rfl
            exact other rfl
          rcases Nat.lt_or_gt_of_ne different with before | beyond
          · exact List.getElem?_append_left before
          · have none : host.allocations[index]? = none :=
              List.getElem?_eq_none (Nat.le_of_lt beyond)
            exact (List.getElem?_eq_none (by rw [List.length_append]; exact beyond)).trans none.symm
      | stack thread => rfl
      | global id => rfl
  · rw [ran]
    exact tidy

theorem Tidy.updateGlobal (tidy : host.Tidy) (id : GlobalId)
    (update : GlobalEntry → Except Fault GlobalEntry) :
    (host.after (Machine.updateGlobal id update)).Tidy := by
  rw [Host.after]
  rcases host.machine.updateGlobal_cases id update with same | ⟨_, _, _, _, changed⟩
  · rw [same]
    exact tidy
  · rw [changed]
    exact tidy.same rfl (Nat.le_refl _) rfl rfl rfl rfl rfl

/-- A new global has no place yet. -/
theorem Tidy.declare (tidy : host.Tidy) (unit : Option Nat) (entry : GlobalEntry) :
    (host.declare unit entry).Tidy := by
  have earlier : ∀ {id : GlobalId} {found : GlobalEntry} {location : UInt64},
      (host.declared ++ [entry])[id.index]? = some found →
      host.machine.locations.get? id = some location →
      host.declared[id.index]? = some found := by
    intro id found location declared placed
    rwa [List.getElem?_append_left (tidy.known id location placed)] at declared
  refine ⟨tidy.keep rfl (Nat.le_refl _) ?_, ?_, tidy.shaped, ?_, tidy.single⟩
  · intro holder region held
    cases holder with
    | allocation index => exact held
    | stack thread => exact held
    | global id =>
        obtain ⟨found, location, declared, isVariable, placed, rfl⟩ := storage?_eq_some_iff.mp held
        exact storage?_eq_some_iff.mpr
          ⟨found, location, earlier declared placed, isVariable, placed, rfl⟩
  · intro id location placed
    have before := tidy.known id location placed
    simp only [Host.declare, List.length_append]
    omega
  · intro id found location declared isVariable placed
    exact tidy.aligned id found location (earlier declared placed) isVariable placed

/-- The record of a module's variable says where the finalised module has placed it. -/
theorem Coherent.placed {config : Config} (coherent : host.Coherent config) {unit : Module}
    (member : unit ∈ host.modules) {machine : Machine}
    (finalised : unit.Finalised host.machine machine) {id : GlobalId} (own : id ∈ unit.globals)
    {first : GlobalEntry} {location : UInt64} (declared : host.declared[id.index]? = some first)
    (isVariable : first.kind.isAlias = false)
    (placed : machine.locations.get? id = some location) :
    ∃ entry, unit.Declares host.machine.globals id entry ∧ first = entry.declaration ∧
      host.machine.memory.next ≤ location.toNat ∧
      location.toNat + entry.storageSize ≤ machine.memory.next ∧
      entry.storageAlignment ∣ location.toNat := by
  obtain ⟨entry, alive⟩ := Option.isSome_iff_exists.mp ((coherent.owned unit member).alive id own)
  obtain rfl := Option.some.inj (declared.symm.trans (coherent.declared id entry alive))
  obtain ⟨found, here, above, below, aligned⟩ :=
    finalised.places id entry ⟨own, alive⟩ isVariable
  obtain rfl := Option.some.inj (here.symm.trans placed)
  rw [Nat.max_eq_left entry.storageAlignment_pos] at aligned
  exact ⟨entry, ⟨own, alive⟩, rfl, above, below, aligned⟩

/-- The variables of a finalised module are placed in free memory, and nothing else moves. -/
theorem Tidy.finalised {config : Config} (tidy : host.Tidy) (coherent : host.Coherent config)
    {unit : Module} (member : unit ∈ host.modules) {machine : Machine}
    (finalised : unit.Finalised host.machine machine) : Tidy { host with machine } := by
  have settings : machine.config = host.machine.config :=
    (congrArg Machine.config finalised.frame :)
  have owners : machine.threadStacks = host.machine.threadStacks :=
    (congrArg Machine.threadStacks finalised.frame :)
  have stacks? : ∀ thread, machine.stack? thread = host.machine.stack? thread := by
    intro thread
    rw [Machine.stack?, Machine.stack?, owners]
  -- What is not a variable of the module has the storage that it had.
  have others : ∀ holder, (∀ id ∈ unit.globals, holder ≠ .global id) →
      region? { host with machine } holder = host.region? holder := by
    intro holder foreign
    cases holder with
    | allocation index => rfl
    | stack thread => rw [region?, region?, stacks?]
    | global id =>
        have outside : id ∉ unit.globals := fun own => foreign id own rfl
        rw [region?, region?, storage?, storage?, finalised.others id outside]
  have mine : ∀ holder region, region? { host with machine } holder = some region →
      host.region? holder ≠ some region → ∃ id ∈ unit.globals, holder = .global id := by
    intro holder region held changed
    by_contra none
    exact changed (others holder (fun id own same => none ⟨id, own, same⟩) ▸ held)
  refine ⟨tidy.grow finalised.base coherent.sound.base_le_next finalised.next_le ?_ ?_, ?_, ?_, ?_,
    ?_⟩
  · intro holder region held
    by_cases old : host.region? holder = some region
    · exact .inl old
    · obtain ⟨id, own, rfl⟩ := mine holder region held old
      obtain ⟨first, location, declared, isVariable, placed, rfl⟩ := storage?_eq_some_iff.mp held
      obtain ⟨entry, _, rfl, above, below, _⟩ :=
        coherent.placed member finalised own declared isVariable placed
      exact .inr ⟨above, below⟩
  · intro holder region held changed holder' region' held' changed' different
    obtain ⟨id, own, rfl⟩ := mine holder region held changed
    obtain ⟨id', own', rfl⟩ := mine holder' region' held' changed'
    obtain ⟨first, location, declared, isVariable, placed, rfl⟩ := storage?_eq_some_iff.mp held
    obtain ⟨first', location', declared', isVariable', placed', rfl⟩ :=
      storage?_eq_some_iff.mp held'
    obtain ⟨entry, here, rfl, _⟩ :=
      coherent.placed member finalised own declared isVariable placed
    obtain ⟨entry', here', rfl, _⟩ :=
      coherent.placed member finalised own' declared' isVariable' placed'
    exact finalised.apart id entry location here isVariable placed id' entry' location' here'
      isVariable' placed' fun same => different (congrArg Holder.global same)
  · intro id location placed
    by_cases own : id ∈ unit.globals
    · obtain ⟨entry, alive⟩ :=
        Option.isSome_iff_exists.mp ((coherent.owned unit member).alive id own)
      exact (List.getElem?_eq_some_iff.mp (coherent.declared id entry alive)).1
    · exact tidy.known id location (finalised.others id own ▸ placed)
  · intro thread stack owned
    change machine.stack? thread = some stack at owned
    change _ = _ + machine.config.stackSize.toNat ∧ _
    rw [settings]
    exact tidy.shaped thread stack (stacks? thread ▸ owned)
  · intro id first location declared isVariable placed
    by_cases own : id ∈ unit.globals
    · obtain ⟨entry, _, rfl, _, _, aligned⟩ :=
        coherent.placed member finalised own declared isVariable placed
      exact aligned
    · exact tidy.aligned id first location declared isVariable (finalised.others id own ▸ placed)
  · change (machine.threadStacks.map Prod.fst).Nodup
    rw [owners]
    exact tidy.single

theorem Tidy.finalize {config : Config} (tidy : host.Tidy) (coherent : host.Coherent config)
    (index : Nat) : (host.finalize index).Tidy := by
  rw [Host.finalize]
  cases found : host.modules[index]? with
  | none => exact tidy
  | some unit =>
      have member : unit ∈ host.modules := List.mem_of_getElem? found
      simp only [Host.after]
      rcases Machine.finalize_cases (coherent.owned unit member) coherent.sound with
        ⟨_, machine, ran, finalised⟩ | ⟨_, fault, stop, ran, above, _⟩
      · rw [ran]
        exact tidy.finalised coherent member finalised
      · rw [ran]
        exact tidy.same rfl above rfl rfl rfl rfl rfl

/-- Every event but `bind` keeps storage laid out. -/
theorem Tidy.step {config : Config} (tidy : host.Tidy) (coherent : host.Coherent config)
    (event : Event) (allowed : event.isBind = false) : (host.step event).Tidy := by
  have sound := coherent.sound
  cases event with
  | newModule name => exact tidy.same rfl (Nat.le_refl _) rfl rfl rfl rfl rfl
  | dropModule unit => exact tidy.same rfl (Nat.le_refl _) rfl rfl rfl rfl rfl
  | addSymbol unit symbol => exact tidy.same rfl (Nat.le_refl _) rfl rfl rfl rfl rfl
  | declare unit kind ty alignment slot => exact tidy.declare unit _
  | setName id name => exact tidy.updateGlobal id _
  | initialise id symbols => exact tidy.updateGlobal id _
  | forget held => exact tidy.same rfl (Nat.le_refl _) rfl rfl rfl rfl rfl
  | allocate size align => exact tidy.allocate sound size align
  | write address bytes =>
      change (host.after (Machine.writeBytes address bytes)).Tidy
      rw [Host.after]
      rcases host.machine.writeBytes_cases address bytes with same | written
      · rw [same]
        exact tidy
      · rw [written]
        exact tidy.same rfl (Nat.le_refl _) rfl rfl rfl rfl rfl
  | stackFor thread => exact tidy.stackFor sound thread
  | setStackPointer thread pointer =>
      exact tidy.cross sound (host.machine.setStackPointer_crossing thread pointer)
  | call site depth thread target args pointer =>
      exact tidy.cross sound (CallSite.execute_crossing (Machine.invoke_crosses thread depth) site
        host.machine target args pointer)
  | outside buffers objects => exact tidy.same rfl (Nat.le_refl _) rfl rfl rfl rfl rfl
  | bind id location => cases allowed
  | finalize unit => exact tidy.finalize coherent unit

theorem tidy_start (config : Config) : Tidy { machine := .start config } := by
  have none : ∀ holder, region? { machine := .start config } holder = none := by
    intro holder
    cases holder <;> rfl
  refine ⟨⟨?_, ?_⟩, nofun, nofun, nofun, List.nodup_nil⟩
  · intro holder region held
    rw [none] at held
    cases held
  · intro holder region held
    rw [none] at held
    cases held

end Host

end IrMachine
