import IrMachine.Proofs.Finalize.Initializer

/-!
# The steps after storage was handed out

Once storage is there, four loops record places, resolve entries, place aliases and write
initializers. Each of them is described by what has been done after a prefix of its list, and by the
one part of the machine that it touches. None of them can fail: what they ask for again was checked
before, and the loops in front of them do not take it away.
-/

namespace IrMachine

namespace Module

/-- The entry of a global once the module is finalised. -/
def settled (unit : Module) (id : GlobalId) (entry : GlobalEntry) : GlobalEntry :=
  if id ∈ unit.globals then entry.resolve (unit.initializer? entry) else entry

@[simp] theorem settled_kind (unit : Module) (id : GlobalId) (entry : GlobalEntry) :
    (unit.settled id entry).kind = entry.kind := by
  rw [settled]
  split <;> rfl

@[simp] theorem settled_ty (unit : Module) (id : GlobalId) (entry : GlobalEntry) :
    (unit.settled id entry).ty = entry.ty := by
  rw [settled]
  split <;> rfl

@[simp] theorem settled_value? (unit : Module) (id : GlobalId) (entry : GlobalEntry) :
    (unit.settled id entry).value? = unit.symbolOf id entry := by
  unfold settled symbolOf
  split <;> rfl

end Module

namespace Machine

variable {machine : Machine} {unit : Module}

/-- Recording places touches only the places, and every one of them can be looked up. -/
theorem bindPlaces_ok (machine : Machine) {places : List (GlobalId × UInt64)}
    (nodup : (places.map Prod.fst).Nodup) :
    ∃ locations, (places.forM fun (id, location) => modify (·.bind id location) : Run Unit).on
        machine = (.ok (), { machine with locations }) ∧
      ∀ id, locations.get? id = (places.lookup id).or (machine.locations.get? id) := by
  let holds : List (GlobalId × UInt64) → Machine → Prop := fun done current =>
    ∃ locations, current = { machine with locations } ∧
      ∀ id, locations.get? id = (done.lookup id).or (machine.locations.get? id)
  have start : holds [] machine := ⟨machine.locations, rfl, fun _ => rfl⟩
  have step : ∀ done (pair : GlobalId × UInt64) rest current, places = done ++ pair :: rest →
      holds done current →
      ∃ next, (modify (·.bind pair.1 pair.2) : Run Unit).on current = (.ok (), next) ∧
        holds (done ++ [pair]) next := by
    rintro done ⟨id, location⟩ rest _ split ⟨locations, rfl, looked⟩
    have fresh : done.lookup id = none := by
      rw [split, List.map_append, List.map_cons, List.nodup_append] at nodup
      rw [List.lookup_eq_none_iff]
      intro pair member
      have apart := nodup.2.2 _ (List.mem_map_of_mem member) _ (List.mem_cons_self ..)
      exact bne_iff_ne.mpr apart.symm
    refine ⟨_, rfl, locations.bind id location, rfl, ?_⟩
    intro query
    rw [Locations.get?_bind, List.lookup_append]
    by_cases same : query = id
    · subst same
      simp [fresh]
    · have other : (query == id) = false := beq_false_of_ne same
      simp [same, looked query, List.lookup_cons, other]
  obtain ⟨final, ran, locations, rfl, looked⟩ := Run.forM_ok holds start step
  exact ⟨locations, ran, looked⟩

/-- Resolving entries touches only the entries, each of which then holds what its module says. -/
theorem initialiseAll_ok (machine : Machine) (owned : unit.Owned machine.globals)
    (ready : ∀ id entry, unit.Declares machine.globals id entry →
      entry.isInitialised = false ∧ unit.HasSlotOf entry) :
    ∃ globals, (unit.globals.forM fun id => initialise id unit.symbols).on machine =
        (.ok (), { machine with globals }) ∧
      globals.entries.size = machine.globals.entries.size ∧
      ∀ id, globals.get? id = (machine.globals.get? id).map (unit.settled id) := by
  let holds : List GlobalId → Machine → Prop := fun done current =>
    ∃ globals, current = { machine with globals } ∧
      globals.entries.size = machine.globals.entries.size ∧
      ∀ id, globals.get? id = (machine.globals.get? id).map fun entry =>
        if id ∈ done then entry.resolve (unit.initializer? entry) else entry
  have start : holds [] machine := ⟨machine.globals, rfl, rfl, by simp⟩
  have step : ∀ done id rest current, unit.globals = done ++ id :: rest → holds done current →
      ∃ next, (initialise id unit.symbols).on current = (.ok (), next) ∧
        holds (done ++ [id]) next := by
    rintro done id rest _ split ⟨globals, rfl, size, looked⟩
    have member : id ∈ unit.globals := by simp [split]
    have first : id ∉ done := by
      have nodup := owned.nodup
      rw [split, List.nodup_append] at nodup
      exact fun again => nodup.2.2 id again id (List.mem_cons_self ..) rfl
    obtain ⟨entry, alive⟩ := Option.isSome_iff_exists.mp (owned.alive id member)
    have here : globals.get? id = some entry := by rw [looked, alive]; simp [first]
    have resolved : entry.initialise unit.symbols =
        .ok (entry.resolve (unit.initializer? entry)) :=
      GlobalEntry.initialise_eq_ok_iff.mpr ⟨ready id entry ⟨member, alive⟩, rfl⟩
    refine ⟨{ machine with globals := globals.set id (entry.resolve (unit.initializer? entry)) },
      ?_, _, rfl, ?_, ?_⟩
    · simp only [initialise, updateGlobal, Run.on_bind, Run.on_get, here, Run.on_ofExcept,
        resolved, Run.on_modify]
    · simpa [GlobalTable.set] using size
    · intro query
      rw [GlobalTable.get?_set here]
      by_cases same : query = id
      · subst same
        simp [alive]
      · simp [same, looked query]
  obtain ⟨final, ran, globals, rfl, size, looked⟩ := Run.forM_ok holds start step
  exact ⟨globals, ran, size, looked⟩

/-- An alias shares its place with the variable at the end of its chain. -/
def SharesPlace (table : GlobalTable) (names : GlobalId → GlobalEntry → Option Symbol)
    (locations : Locations) (id : GlobalId) : Prop :=
  ∃ count last location, count ≤ 64 ∧ AliasChain table names count id last ∧
    locations.get? last = some location ∧ locations.get? id = some location

/-- Placing aliases touches only their places. Variables keep theirs, so it does not matter in which
order the aliases come. -/
theorem bindAliases_ok (machine : Machine) {pending : Initializers}
    (alive : ∀ id ∈ unit.globals, (machine.globals.get? id).isSome)
    (targets : ∀ id entry, unit.Declares machine.globals id entry → entry.kind.isAlias = true →
      ∃ count last, count ≤ 64 ∧
        AliasChain machine.globals (GlobalTable.initializerOf pending) count id last ∧
        (machine.locations.get? last).isSome) :
    ∃ locations, (unit.globals.forM (bindAlias pending)).on machine =
        (.ok (), { machine with locations }) ∧
      (∀ id, (∀ entry, unit.Declares machine.globals id entry → entry.kind.isAlias = false) →
        locations.get? id = machine.locations.get? id) ∧
      ∀ id entry, unit.Declares machine.globals id entry → entry.kind.isAlias = true →
        SharesPlace machine.globals (GlobalTable.initializerOf pending) locations id := by
  let holds : List GlobalId → Machine → Prop := fun done current =>
    ∃ locations, current = { machine with locations } ∧
      (∀ id, (∀ entry, unit.Declares machine.globals id entry → entry.kind.isAlias = false) →
        locations.get? id = machine.locations.get? id) ∧
      ∀ id ∈ done, ∀ entry, unit.Declares machine.globals id entry → entry.kind.isAlias = true →
        SharesPlace machine.globals (GlobalTable.initializerOf pending) locations id
  have start : holds [] machine := ⟨machine.locations, rfl, fun _ _ => rfl, nofun⟩
  have step : ∀ done id rest current, unit.globals = done ++ id :: rest → holds done current →
      ∃ next, (bindAlias pending id).on current = (.ok (), next) ∧ holds (done ++ [id]) next := by
    rintro done id rest _ split ⟨locations, rfl, kept, shared⟩
    have member : id ∈ unit.globals := by simp [split]
    obtain ⟨entry, found⟩ := Option.isSome_iff_exists.mp (alive id member)
    have entered := GlobalTable.entry_eq_ok_iff.mpr found
    by_cases isAlias : entry.kind.isAlias = true
    · obtain ⟨count, last, bound, chain, placed⟩ := targets id entry ⟨member, found⟩ isAlias
      obtain ⟨location, placed⟩ := Option.isSome_iff_exists.mp placed
      obtain ⟨final, lastAlive, isVariable⟩ := chain.isVariable_last
      -- The end of a chain is a variable, and those still have the places they had.
      have still : locations.get? last = some location := by
        rw [kept last fun other declared => ?_, placed]
        rw [Option.some.inj (declared.2.symm.trans lastAlive)]
        exact isVariable
      have different : last ≠ id := by
        rintro rfl
        rw [Option.some.inj (found.symm.trans lastAlive), isVariable] at isAlias
        cases isAlias
      have target : machine.globals.aliasTarget pending id entry = .ok (last, final) :=
        (GlobalTable.aliasTarget_eq_ok_iff found isAlias).mpr ⟨⟨count, bound, chain⟩, lastAlive⟩
      have resolved : ({ machine with locations } : Machine).resolve last = .ok location :=
        resolve_eq_ok_iff.mpr still
      refine ⟨{ machine with locations := locations.bind id location }, ?_, _, rfl, ?_, ?_⟩
      · simp only [bindAlias, Run.on_bind, Run.on_get, Run.on_ofExcept, entered, isAlias, if_true,
          target, resolved, Run.on_modify]
        rfl
      · intro query others
        rw [Locations.get?_bind, if_neg, kept query others]
        rintro rfl
        rw [others entry ⟨member, found⟩] at isAlias
        cases isAlias
      · intro query handled other declared otherAlias
        by_cases same : query = id
        · subst same
          exact ⟨count, last, location, bound, chain, by simp [different, still], by simp⟩
        · have before : query ∈ done := by simpa [same] using handled
          obtain ⟨count', last', location', bound', chain', lastPlaced, queryPlaced⟩ :=
            shared query before other declared otherAlias
          obtain ⟨final', lastAlive', isVariable'⟩ := chain'.isVariable_last
          have different' : last' ≠ id := by
            rintro rfl
            rw [Option.some.inj (found.symm.trans lastAlive'), isVariable'] at isAlias
            cases isAlias
          exact ⟨count', last', location', bound', chain', by simpa [different'] using lastPlaced,
            by simpa [same] using queryPlaced⟩
    · refine ⟨{ machine with locations }, ?_, locations, rfl, kept, ?_⟩
      · simp only [bindAlias, Run.on_bind, Run.on_get, Run.on_ofExcept, entered, isAlias]
        rfl
      · intro query handled other declared otherAlias
        rcases List.mem_append.mp handled with before | now
        · exact shared query before other declared otherAlias
        · rw [List.mem_singleton.mp now] at declared
          rw [Option.some.inj (found.symm.trans declared.2)] at isAlias
          exact absurd otherAlias isAlias
  obtain ⟨final, ran, locations, rfl, kept, shared⟩ := Run.forM_ok holds start step
  exact ⟨locations, ran, kept, fun id entry declared => shared id declared.1 entry declared⟩

/-- A variable that is resolved to a symbol, and its place. -/
structure Assigns (machine : Machine) (id : GlobalId) (entry : GlobalEntry) (symbol : Symbol)
    (location : UInt64) : Prop where
  alive : machine.globals.get? id = some entry
  isVariable : entry.kind.isAlias = false
  resolved : entry.value? = some symbol
  placed : machine.locations.get? id = some location

theorem Assigns.congr {machine machine' : Machine} {id : GlobalId} {entry : GlobalEntry}
    {symbol : Symbol} {location : UInt64} (assigns : machine.Assigns id entry symbol location)
    (globals : machine'.globals = machine.globals)
    (locations : machine'.locations = machine.locations) :
    machine'.Assigns id entry symbol location :=
  ⟨globals ▸ assigns.alive, assigns.isVariable, assigns.resolved, locations ▸ assigns.placed⟩

/-- Whether a symbol can be written to a place as the value of an entry. -/
structure Writable (machine : Machine) (entry : GlobalEntry) (symbol : Symbol)
    (location : UInt64) : Prop where
  fits : symbol.fits entry.ty = true
  sized : entry.ty.size?.isSome
  references : ∀ target, symbol = .global target →
    (machine.globals.get? target).isSome ∧ (machine.locations.get? target).isSome
  inside : machine.memory.contains location.toNat entry.ty.byteSize = true

/-- Memory in which the variables among some globals hold their symbols, and all else is as it was
in the machine. -/
structure Written (machine : Machine) (ids : List GlobalId) (memory : NativeMemory) : Prop where
  base : memory.base = machine.memory.base
  size : memory.size = machine.memory.size
  next : memory.next = machine.memory.next
  holds : ∀ id ∈ ids, ∀ entry symbol location, machine.Assigns id entry symbol location →
    memory.read location entry.ty.byteSize = .ok (symbol.encoding machine.placeOf entry.ty)
  kept : ∀ (query : UInt64) (length : Nat),
    (∀ id ∈ ids, ∀ entry symbol location, machine.Assigns id entry symbol location →
      Region.Apart ⟨query.toNat, length⟩ ⟨location.toNat, entry.ty.byteSize⟩) →
    memory.read query length = machine.memory.read query length

/-- One more variable is written. -/
theorem Written.store {done : List GlobalId} {memory : NativeMemory} {id : GlobalId}
    {entry : GlobalEntry} {symbol : Symbol} {location : UInt64}
    (written : machine.Written done memory) (assigns : machine.Assigns id entry symbol location)
    (writable : machine.Writable entry symbol location)
    (apart : ∀ id' ∈ done, ∀ entry' symbol' location',
      machine.Assigns id' entry' symbol' location' →
      Region.Apart ⟨location'.toNat, entry'.ty.byteSize⟩ ⟨location.toNat, entry.ty.byteSize⟩) :
    machine.Written (done ++ [id])
      (memory.stored location (symbol.encoding machine.placeOf entry.ty)) := by
  have length := symbol.length_encoding machine.placeOf writable.sized
  have above : memory.base.toNat ≤ location.toNat := by
    rw [written.base]
    exact (NativeMemory.contains_iff.mp writable.inside).1
  have unique : ∀ entry' symbol' location', machine.Assigns id entry' symbol' location' →
      entry' = entry ∧ symbol' = symbol ∧ location' = location := by
    intro entry' symbol' location' again
    obtain rfl := Option.some.inj (again.alive.symm.trans assigns.alive)
    exact ⟨rfl, Option.some.inj (again.resolved.symm.trans assigns.resolved),
      Option.some.inj (again.placed.symm.trans assigns.placed)⟩
  refine ⟨by simp [written.base], by simp [written.size], by simp [written.next], ?_, ?_⟩
  · intro id' handled entry' symbol' location' assigns'
    rcases List.mem_append.mp handled with before | now
    · rw [memory.read_stored_apart above]
      · exact written.holds id' before entry' symbol' location' assigns'
      · rw [length]
        exact apart id' before entry' symbol' location' assigns'
    · rw [List.mem_singleton.mp now] at assigns'
      obtain ⟨rfl, rfl, rfl⟩ := unique entry' symbol' location' assigns'
      have inside : memory.contains location'.toNat entry'.ty.byteSize = true := by
        rw [NativeMemory.contains, written.base, written.size]
        exact writable.inside
      rw [← length] at inside ⊢
      exact memory.read_stored inside
  · intro query count outside
    rw [memory.read_stored_apart above]
    · exact written.kept query count fun id' before => outside id' (List.mem_append_left _ before)
    · rw [length]
      exact outside id (by simp) entry symbol location assigns

/-- A global without a symbol to write changes nothing. -/
theorem Written.skip {done : List GlobalId} {memory : NativeMemory} {id : GlobalId}
    (written : machine.Written done memory)
    (nothing : ∀ entry symbol location, ¬ machine.Assigns id entry symbol location) :
    machine.Written (done ++ [id]) memory := by
  refine ⟨written.base, written.size, written.next, ?_, ?_⟩
  · intro id' handled entry symbol location assigns
    rcases List.mem_append.mp handled with before | now
    · exact written.holds id' before entry symbol location assigns
    · rw [List.mem_singleton.mp now] at assigns
      exact absurd assigns (nothing entry symbol location)
  · intro query length outside
    exact written.kept query length fun id' before => outside id' (List.mem_append_left _ before)

/-- Writing initializers touches only memory. A later write spares what earlier ones have stored. -/
theorem materialiseAll_ok (machine : Machine) (owned : unit.Owned machine.globals)
    (placed : ∀ id entry, unit.Declares machine.globals id entry → entry.kind.isAlias = false →
      (machine.locations.get? id).isSome)
    (writable : ∀ id ∈ unit.globals, ∀ entry symbol location,
      machine.Assigns id entry symbol location → machine.Writable entry symbol location)
    (apart : ∀ id ∈ unit.globals, ∀ id' ∈ unit.globals, id ≠ id' →
      ∀ entry symbol location, machine.Assigns id entry symbol location →
      ∀ entry' symbol' location', machine.Assigns id' entry' symbol' location' →
        Region.Apart ⟨location.toNat, entry.ty.byteSize⟩ ⟨location'.toNat, entry'.ty.byteSize⟩) :
    ∃ memory, (unit.globals.forM materialise).on machine = (.ok (), { machine with memory }) ∧
      machine.Written unit.globals memory := by
  let holds : List GlobalId → Machine → Prop := fun done current =>
    ∃ memory, current = { machine with memory } ∧ machine.Written done memory
  have start : holds [] machine := ⟨machine.memory, rfl, rfl, rfl, rfl, nofun, fun _ _ _ => rfl⟩
  have step : ∀ done id rest current, unit.globals = done ++ id :: rest → holds done current →
      ∃ next, (materialise id).on current = (.ok (), next) ∧ holds (done ++ [id]) next := by
    rintro done id rest _ split ⟨memory, rfl, written⟩
    have member : id ∈ unit.globals := by simp [split]
    have first : id ∉ done := by
      have nodup := owned.nodup
      rw [split, List.nodup_append] at nodup
      exact fun again => nodup.2.2 id again id (List.mem_cons_self ..) rfl
    obtain ⟨entry, found⟩ := Option.isSome_iff_exists.mp (owned.alive id member)
    have entered := GlobalTable.entry_eq_ok_iff.mpr found
    by_cases assigned : ∃ symbol location, machine.Assigns id entry symbol location
    · obtain ⟨symbol, location, assigns⟩ := assigned
      have ready := writable id member entry symbol location assigns
      have inside : memory.contains location.toNat entry.ty.byteSize = true := by
        rw [NativeMemory.contains, written.base, written.size]
        exact ready.inside
      have resolved : ({ machine with memory } : Machine).resolve id = .ok location :=
        resolve_eq_ok_iff.mpr assigns.placed
      have ran : (writeInitializer location entry symbol).on { machine with memory } =
          (.ok (), ({ machine with memory } : Machine).stored location
            (symbol.encoding machine.placeOf entry.ty)) :=
        writeInitializer_ok ready.fits ready.sized ready.references inside
      refine ⟨_, ?_, _, rfl, written.store assigns ready ?_⟩
      · simp only [materialise, Run.on_bind, Run.on_get, Run.on_ofExcept, entered,
          assigns.isVariable, assigns.resolved, resolved]
        exact ran
      · intro id' before entry' symbol' location' assigns'
        have member' : id' ∈ unit.globals := by simp [split, before]
        have different : id' ≠ id := fun same => first (same ▸ before)
        exact apart id' member' id member different entry' symbol' location' assigns' entry symbol
          location assigns
    · have nothing : ∀ entry' symbol location, ¬ machine.Assigns id entry' symbol location := by
        intro entry' symbol location assigns
        obtain rfl := Option.some.inj (found.symm.trans assigns.alive)
        exact assigned ⟨symbol, location, assigns⟩
      refine ⟨{ machine with memory }, ?_, memory, rfl, written.skip nothing⟩
      simp only [materialise, Run.on_bind, Run.on_get, Run.on_ofExcept, entered]
      cases isAlias : entry.kind.isAlias with
      | true => rfl
      | false =>
          cases resolved : entry.value? with
          | none => rfl
          | some symbol =>
              obtain ⟨location, here⟩ :=
                Option.isSome_iff_exists.mp (placed id entry ⟨member, found⟩ isAlias)
              exact absurd ⟨found, isAlias, resolved, here⟩ (nothing entry symbol location)
  obtain ⟨final, ran, memory, rfl, written⟩ := Run.forM_ok holds start step
  exact ⟨memory, ran, written⟩

end Machine

end IrMachine
