import IrMachine.Proofs.Host.Coherent

/-!
# The life of a global

An entry is named once and resolved once, and nothing else about it ever changes. `Evolves` says
what an entry may become when it is offered a name and resolved against symbols; one event is such a
change (`Host.evolves_step`), such changes compose, and so a whole history is one
(`Host.evolves_run`): it names the entry with the first name it offers, and resolves it against the
first symbols that an initialisation or a finalised module succeeds with.
-/

namespace IrMachine

namespace GlobalEntry

/-- What an entry finds at its slot. -/
def chosen (entry : GlobalEntry) (symbols : List Symbol) : Option Symbol :=
  entry.slot.bind fun slot => symbols[slot - 1]?

/-- The slot of an entry, if it has one, is not beyond the end of the symbols. -/
def Reaches (entry : GlobalEntry) (symbols : List Symbol) : Prop :=
  ∀ slot, entry.slot = some slot → slot - 1 < symbols.length

/-- An entry before and after it was offered a name and was resolved against symbols, where there
were any. -/
structure Evolves (before after : GlobalEntry) (name : Option String)
    (symbols : Option (List Symbol)) : Prop where
  declaration : after.declaration = before.declaration
  named : after.named = before.named.or (name.map ("@" ++ ·))
  pending : symbols = none → after.resolution = before.resolution
  resolved : ∀ table, symbols = some table →
    (before.isInitialised = false ∧ before.Reaches table) ∧
      after.resolution = .resolved (before.chosen table)

variable {before middle after : GlobalEntry} {name name' : Option String}
  {symbols symbols' : Option (List Symbol)}

theorem Evolves.refl (entry : GlobalEntry) : entry.Evolves entry none none :=
  ⟨rfl, by simp, fun _ => rfl, nofun⟩

theorem Evolves.slot (evolves : before.Evolves after name symbols) : after.slot = before.slot :=
  (congrArg GlobalEntry.slot evolves.declaration :)

/-- An entry that was resolved is initialised, and no other becomes so. -/
theorem Evolves.isInitialised (evolves : before.Evolves after name symbols) :
    after.isInitialised = (before.isInitialised || symbols.isSome) := by
  cases symbols with
  | none =>
      have same := evolves.pending rfl
      simp [GlobalEntry.isInitialised, same]
  | some table =>
      have stored := (evolves.resolved table rfl).2
      simp [GlobalEntry.isInitialised, stored]

theorem Evolves.resolution_eq (evolves : before.Evolves after name symbols)
    (started : before.isInitialised = true) : after.resolution = before.resolution := by
  apply evolves.pending
  cases symbols with
  | none => rfl
  | some table =>
      have fresh := (evolves.resolved table rfl).1.1
      rw [started] at fresh
      cases fresh

/-- The first name stays and the first symbols stay, since an initialised entry is not resolved
again. -/
theorem Evolves.trans (early : before.Evolves middle name symbols)
    (late : middle.Evolves after name' symbols') :
    before.Evolves after (name.or name') (symbols.or symbols') := by
  refine ⟨late.declaration.trans early.declaration, ?_, ?_, ?_⟩
  · rw [late.named, early.named, Option.map_or, Option.or_assoc]
  · intro none
    obtain ⟨first, second⟩ := Option.or_eq_none_iff.mp none
    rw [late.pending second, early.pending first]
  · intro table found
    cases symbols with
    | some first =>
        obtain rfl := Option.some.inj found
        obtain ⟨ready, stored⟩ := early.resolved first rfl
        have started : middle.isInitialised = true := by simp [early.isInitialised]
        exact ⟨ready, (late.resolution_eq started).trans stored⟩
    | none =>
        obtain ⟨⟨fresh, inside⟩, stored⟩ := late.resolved table found
        have same : before.isInitialised = false := by
          rw [early.isInitialised] at fresh
          simpa using fresh
        refine ⟨⟨same, ?_⟩, stored.trans ?_⟩
        · rw [Reaches, ← early.slot]
          exact inside
        · rw [chosen, chosen, early.slot]

theorem setName_of_unnamed {entry : GlobalEntry} (unnamed : entry.named = none) (name : String) :
    entry.setName name = .ok { entry with named := some ("@" ++ name) } := by
  rw [setName, unnamed]

theorem setName_of_named {entry : GlobalEntry} {first : String} (taken : entry.named = some first)
    (name : String) : entry.setName name = .error (.lifecycle first (.renamed ("@" ++ name))) := by
  rw [setName, taken]
  simp only [fault, GlobalEntry.name, taken, Option.getD_some]

/-- A name is refused only where there is one. -/
theorem evolves_setName (entry : GlobalEntry) (name : String) :
    entry.Evolves ((entry.setName name).toOption.getD entry) (some name) none := by
  cases found : entry.named with
  | none =>
      rw [setName_of_unnamed found]
      refine ⟨rfl, ?_, fun _ => rfl, nofun⟩
      rw [found]
      rfl
  | some first =>
      rw [setName_of_named found]
      refine ⟨rfl, ?_, fun _ => rfl, nofun⟩
      rw [found]
      exact found

theorem evolves_resolve {entry : GlobalEntry} {symbols : List Symbol}
    (ready : entry.isInitialised = false ∧ entry.Reaches symbols) :
    entry.Evolves (entry.resolve (entry.chosen symbols)) none (some symbols) := by
  refine ⟨rfl, by simp [resolve], nofun, ?_⟩
  intro table found
  obtain rfl := Option.some.inj found
  exact ⟨ready, rfl⟩

theorem evolves_initialise (entry : GlobalEntry) (symbols : List Symbol) :
    entry.Evolves ((entry.initialise symbols).toOption.getD entry) none
      (if (entry.initialise symbols).isOk then some symbols else none) := by
  cases resolved : entry.initialise symbols with
  | error fault => exact .refl entry
  | ok next =>
      obtain ⟨ready, rfl⟩ :=
        (@initialise_eq_ok_iff entry { name := "", symbols } next).mp resolved
      exact evolves_resolve ready

end GlobalEntry

namespace Machine

variable {machine : Machine} {id : GlobalId} {entry : GlobalEntry}

/-- Updating a global that exists ends as the update of its entry does. -/
theorem updateGlobal_on (alive : machine.globals.get? id = some entry)
    (update : GlobalEntry → Except Fault GlobalEntry) :
    (updateGlobal id update).on machine =
      match update entry with
      | .ok next => (.ok (), { machine with globals := machine.globals.set id next })
      | .error fault => (.error fault, machine) := by
  cases updated : update entry with
  | error fault =>
      simp only [updateGlobal, Run.on_bind, Run.on_get, alive, Run.on_ofExcept, updated]
  | ok next =>
      simp only [updateGlobal, Run.on_bind, Run.on_get, alive, Run.on_ofExcept, updated,
        Run.on_modify]

/-- An update that fails leaves the entry, and every update leaves all other entries. -/
theorem get?_updateGlobal (machine : Machine) (id : GlobalId)
    (update : GlobalEntry → Except Fault GlobalEntry) (query : GlobalId) :
    ((updateGlobal id update).on machine).2.globals.get? query =
      if query = id then
        (machine.globals.get? id).map fun entry => (update entry).toOption.getD entry
      else machine.globals.get? query := by
  have untouched : machine.globals.get? query =
      if query = id then machine.globals.get? id else machine.globals.get? query := by
    split
    · rename_i here
      rw [here]
    · rfl
  cases found : machine.globals.get? id with
  | none =>
      have same : ((updateGlobal id update).on machine).2 = machine := by
        simp only [updateGlobal, Run.on_bind, Run.on_get, found, Run.on_pure]
      rw [same]
      exact untouched.trans (by rw [found]; rfl)
  | some entry =>
      rw [updateGlobal_on found, Option.map_some]
      cases update entry with
      | ok next => exact GlobalTable.get?_set found next query
      | error fault => exact untouched.trans (by rw [found]; rfl)

end Machine

/-- Whether an event is about something other than globals. -/
def Event.isQuiet : Event → Bool
  | declare .. | setName .. | initialise .. | forget .. | bind .. | finalize .. => false
  | _ => true

def Event.naming (id : GlobalId) : Event → Option String
  | setName target name => if target = id then some name else none
  | _ => none

namespace Host

/-- The symbols that an event resolves a global against, if it succeeds: those it brings, or those
of the module that it finalises. -/
def resolving (host : Host) (id : GlobalId) : Event → Option (List Symbol)
  | .initialise target symbols =>
      if target = id ∧ ((Machine.initialise id symbols).on host.machine).1.isOk then some symbols
      else none
  | .finalize index =>
      host.modules[index]?.bind fun unit =>
        if id ∈ unit.globals ∧ ((Machine.finalize unit).on host.machine).1.isOk then
          some unit.symbols
        else none
  | _ => none

variable {config : Config} {host : Host} {id : GlobalId}

/-- Entries and places change only in events that are about globals. -/
theorem step_quiet (host : Host) {event : Event} (quiet : event.isQuiet = true) :
    (host.step event).machine.globals = host.machine.globals ∧
      (host.step event).machine.locations = host.machine.locations := by
  have crossed : ∀ {thread machine}, Crossing thread host.machine machine →
      machine.globals = host.machine.globals ∧ machine.locations = host.machine.locations := by
    intro thread machine crossing
    obtain ⟨_, _, _, rfl⟩ := crossing.frame
    exact ⟨rfl, rfl⟩
  cases event with
  | newModule name => exact ⟨rfl, rfl⟩
  | dropModule unit => exact ⟨rfl, rfl⟩
  | addSymbol unit symbol => exact ⟨rfl, rfl⟩
  | outside buffers objects => exact ⟨rfl, rfl⟩
  | allocate size align =>
      obtain ⟨memory, same⟩ := host.machine.allocate_frame size align
      change (host.allocate size align).machine.globals = _ ∧
        (host.allocate size align).machine.locations = _
      rw [allocate_machine, same]
      exact ⟨rfl, rfl⟩
  | write address bytes =>
      change ((Machine.writeBytes address bytes).on host.machine).2.globals = _ ∧
        ((Machine.writeBytes address bytes).on host.machine).2.locations = _
      obtain same | written := host.machine.writeBytes_cases address bytes
      · rw [same]
        exact ⟨rfl, rfl⟩
      · rw [written]
        exact ⟨rfl, rfl⟩
  | stackFor thread => exact crossed (.stack .refl)
  | setStackPointer thread pointer =>
      exact crossed (host.machine.setStackPointer_crossing thread pointer)
  | call site depth thread target args pointer =>
      exact crossed (CallSite.execute_crossing (Machine.invoke_crosses thread depth) site
        host.machine target args pointer)
  | _ => cases quiet

theorem declared_le_step (host : Host) (event : Event) :
    host.declared.length ≤ (host.step event).declared.length := by
  cases event with
  | declare unit kind ty alignment slot => simp [step, Host.declare]
  | allocate size align =>
      change _ ≤ (host.allocate size align).declared.length
      rw [Host.allocate]
      split <;> exact Nat.le_refl _
  | finalize index =>
      change _ ≤ (host.finalize index).declared.length
      rw [Host.finalize]
      split <;> exact Nat.le_refl _
  | _ => exact Nat.le_refl _

/-- An event drops a global that nobody holds and no module lists. -/
def Forgets (host : Host) (id : GlobalId) (event : Event) : Prop :=
  ∃ held, event = .forget held ∧ id ∉ held ++ host.modules.flatMap Module.globals

/-- An event has a global evolve in its own way, if it is there. -/
def Advances (host : Host) (id : GlobalId) (event : Event) : Prop :=
  ∃ change : GlobalEntry → GlobalEntry,
    (host.step event).machine.globals.get? id = (host.machine.globals.get? id).map change ∧
      ∀ entry, host.machine.globals.get? id = some entry →
        entry.Evolves (change entry) (event.naming id) (host.resolving id event)

theorem advances_of_get?_eq {event : Event}
    (same : (host.step event).machine.globals.get? id = host.machine.globals.get? id)
    (silent : event.naming id = none) (unresolved : host.resolving id event = none) :
    host.Advances id event := by
  refine ⟨fun entry => entry, same.trans Option.map_id'.symm, ?_⟩
  intro entry _
  rw [silent, unresolved]
  exact .refl entry

theorem advances_setName (target : GlobalId) (name : String) :
    host.Advances id (.setName target name) := by
  have looked := host.machine.get?_updateGlobal target (·.setName name) id
  by_cases here : id = target
  · subst here
    refine ⟨_, looked.trans (if_pos rfl), ?_⟩
    intro entry _
    rw [Event.naming, if_pos rfl]
    exact entry.evolves_setName name
  · exact advances_of_get?_eq (looked.trans (if_neg here)) (if_neg (Ne.symm here)) rfl

theorem advances_initialise (target : GlobalId) (symbols : List Symbol) :
    host.Advances id (.initialise target symbols) := by
  have looked := host.machine.get?_updateGlobal target (·.initialise symbols) id
  by_cases here : id = target
  · subst here
    refine ⟨_, looked.trans (if_pos rfl), ?_⟩
    intro entry alive
    have ran : ((Machine.initialise id symbols).on host.machine).1.isOk =
        (entry.initialise symbols).isOk := by
      rw [Machine.initialise, Machine.updateGlobal_on alive]
      cases entry.initialise symbols <;> rfl
    rw [resolving, ran]
    simp only [true_and]
    exact entry.evolves_initialise symbols
  · exact advances_of_get?_eq (looked.trans (if_neg here)) rfl
      (if_neg fun both => here both.1.symm)

/-- A finalised module resolves its own globals, and a refused one none. -/
theorem advances_finalize (coherent : host.Coherent config) (index : Nat) :
    host.Advances id (.finalize index) := by
  cases found : host.modules[index]? with
  | none =>
      apply advances_of_get?_eq
      · rw [finalize_of_none found]
      · rfl
      · rw [resolving, found]
        rfl
  | some unit =>
      have owned := coherent.owned unit (List.mem_of_getElem? found)
      obtain ⟨admissible, machine, ran, finalised⟩ | ⟨_, fault, stop, ran, _⟩ :=
        Machine.finalize_cases owned coherent.sound
      · refine ⟨unit.settled id, ?_, ?_⟩
        · rw [finalize_of_some found, Host.after, ran]
          exact finalised.entries id
        · intro entry alive
          rw [resolving, found, Option.bind_some, ran, Module.settled]
          by_cases own : id ∈ unit.globals
          · rw [if_pos own, if_pos ⟨own, rfl⟩]
            exact GlobalEntry.evolves_resolve
              ⟨admissible.uninitialised id entry ⟨own, alive⟩,
                admissible.slots id entry ⟨own, alive⟩⟩
          · rw [if_neg own, if_neg fun both => own both.1]
            exact .refl entry
      · apply advances_of_get?_eq
        · rw [finalize_of_some found, Host.after, ran]
          rfl
        · rfl
        · rw [resolving, found, Option.bind_some, ran]
          exact if_neg fun both => Bool.false_ne_true both.2

/-- Every event has every declared global evolve, unless the global is forgotten. -/
theorem advances_step (coherent : host.Coherent config) (event : Event)
    (known : id.index < host.declared.length) (kept : ¬ host.Forgets id event) :
    host.Advances id event := by
  cases event with
  | declare unit kind ty alignment slot =>
      have old : id ≠ (host.machine.globals.declare (.new kind ty alignment slot)).1 := by
        rintro rfl
        rw [coherent.count] at known
        exact Nat.lt_irrefl _ known
      exact advances_of_get?_eq
        ((host.machine.globals.get?_declare _ id).trans (if_neg old)) rfl rfl
  | setName target name => exact advances_setName target name
  | initialise target symbols => exact advances_initialise target symbols
  | forget held =>
      have listed : id ∈ held ++ host.modules.flatMap Module.globals := by
        by_contra absent
        exact kept ⟨held, rfl, absent⟩
      exact advances_of_get?_eq
        ((host.machine.globals.get?_collect _ id).trans (if_pos listed)) rfl rfl
  | bind target location => exact advances_of_get?_eq rfl rfl rfl
  | finalize index => exact advances_finalize coherent index
  | _ => exact advances_of_get?_eq (congrArg (·.get? id) (host.step_quiet rfl).1) rfl rfl

/-- An entry that is there after an event was there before it, and has evolved as the event says. -/
theorem evolves_step (coherent : host.Coherent config) (event : Event)
    (known : id.index < host.declared.length) {after : GlobalEntry}
    (alive : (host.step event).machine.globals.get? id = some after) :
    ∃ before, host.machine.globals.get? id = some before ∧
      before.Evolves after (event.naming id) (host.resolving id event) := by
  have kept : ¬ host.Forgets id event := by
    rintro ⟨held, rfl, unlisted⟩
    have gone := (host.machine.globals.get?_collect _ id).trans (if_neg unlisted)
    cases gone.symm.trans alive
  obtain ⟨change, looked, evolves⟩ := advances_step coherent event known kept
  rw [looked] at alive
  obtain ⟨before, existed, rfl⟩ := Option.map_eq_some_iff.mp alive
  exact ⟨before, existed, evolves before existed⟩

theorem declared_le_run (host : Host) (events : List Event) :
    host.declared.length ≤ (host.run events).declared.length := by
  induction events generalizing host with
  | nil => exact Nat.le_refl _
  | cons event rest ih => exact Nat.le_trans (host.declared_le_step event) (ih (host.step event))

variable {machine : Machine}

namespace Sample

end Sample

end Host

end IrMachine
