import IrMachine.Proofs.AliasChain
import IrMachine.Proofs.NativeMemory

/-!
# What the check of a module accepts

`Module.Checked` says in one place what is asked of a module before any storage is handed out, and
`Machine.checkModule_eq_ok_iff` that the check asks for just that. A successful check answers with
`Module.pending`, the initializers of the module's globals, and with `Module.layouts`, the storage
that its variables need; both are functions of the table of globals.
-/

namespace IrMachine

namespace Module

def Declares (unit : Module) (table : GlobalTable) (id : GlobalId) (entry : GlobalEntry) : Prop :=
  id ∈ unit.globals ∧ table.get? id = some entry

/-- What a global holds once the module is finalised: what the module's symbols say of its own
globals, and what is stored in all others. -/
def symbolOf (unit : Module) (id : GlobalId) (entry : GlobalEntry) : Option Symbol :=
  if id ∈ unit.globals then unit.initializer? entry else entry.value?

/-- A global has a place, or is about to be given one because the module declares it. -/
def Places (unit : Module) (machine : Machine) (id : GlobalId) : Prop :=
  id ∈ unit.globals ∨ (machine.locations.get? id).isSome

def pending (unit : Module) (table : GlobalTable) : Initializers :=
  unit.globals.map fun id => (id, (table.get? id).bind unit.initializer?)

/-- The storage that a global needs; an alias needs none. -/
def layout? (table : GlobalTable) (id : GlobalId) : Option (GlobalId × Nat × Nat) :=
  match table.get? id with
  | some entry =>
      if entry.kind.isAlias then none
      else some (id, entry.storageSize, entry.storageAlignment)
  | none => none

/-- The storage that the module's variables need, in the order of their declarations. -/
def layouts (unit : Module) (table : GlobalTable) : List (GlobalId × Nat × Nat) :=
  unit.globals.filterMap (layout? table)

/-- What is asked of a module apart from room for its variables. -/
structure Checked (unit : Module) (machine : Machine) : Prop where
  /-- No entry is initialised yet. -/
  uninitialised : ∀ id entry, unit.Declares machine.globals id entry → entry.isInitialised = false
  /-- Every slot is one of the module's. -/
  slots : ∀ id entry, unit.Declares machine.globals id entry → unit.HasSlotOf entry
  /-- The size of every variable is known. -/
  sized : ∀ id entry, unit.Declares machine.globals id entry → entry.kind.isAlias = false →
    entry.ty.size?.isSome
  /-- Every initializer suits the type of its variable. -/
  fitting : ∀ id entry, unit.Declares machine.globals id entry → entry.kind.isAlias = false →
    ∀ symbol, unit.initializer? entry = some symbol → symbol.fits entry.ty = true
  /-- Every global that a variable refers to exists and has a place or gets one. -/
  references : ∀ id entry, unit.Declares machine.globals id entry → entry.kind.isAlias = false →
    ∀ target, unit.initializer? entry = some (.global target) →
      (machine.globals.get? target).isSome ∧ unit.Places machine target
  /-- Every alias leads, through at most 64 aliases, to a variable that has a place or gets one. -/
  aliases : ∀ id entry, unit.Declares machine.globals id entry → entry.kind.isAlias = true →
    ∃ count last, count ≤ 64 ∧ AliasChain machine.globals unit.symbolOf count id last ∧
      unit.Places machine last

def AcceptsVariable (unit : Module) (machine : Machine) (entry : GlobalEntry) : Prop :=
  entry.ty.size?.isSome ∧ ∀ symbol, unit.initializer? entry = some symbol →
    symbol.fits entry.ty = true ∧ ∀ target, symbol = .global target →
      (machine.globals.get? target).isSome ∧ unit.Places machine target

def AcceptsAlias (unit : Module) (machine : Machine) (id : GlobalId) : Prop :=
  ∃ count last, count ≤ 64 ∧ AliasChain machine.globals unit.symbolOf count id last ∧
    unit.Places machine last

def Accepts (unit : Module) (machine : Machine) (id : GlobalId) : Prop :=
  ∃ entry, machine.globals.get? id = some entry ∧
    if entry.kind.isAlias then unit.AcceptsAlias machine id
    else unit.AcceptsVariable machine entry

variable {unit : Module} {table : GlobalTable} {machine : Machine}

theorem lookup_pending (unit : Module) (table : GlobalTable) (id : GlobalId) :
    (unit.pending table).lookup id =
      if id ∈ unit.globals then some ((table.get? id).bind unit.initializer?) else none := by
  rw [pending]
  induction unit.globals with
  | nil => rfl
  | cons first rest ih =>
      by_cases same : id = first
      · subst same
        simp
      · have other : (id == first) = false := beq_false_of_ne same
        simp [List.lookup_cons, other, same, ih]

theorem initializerOf_pending {id : GlobalId} {entry : GlobalEntry}
    (alive : table.get? id = some entry) :
    GlobalTable.initializerOf (unit.pending table) id entry = unit.symbolOf id entry := by
  rw [GlobalTable.initializerOf, lookup_pending, symbolOf]
  by_cases own : id ∈ unit.globals
  · simp [own, alive]
  · simp [own]

/-- Chains of aliases as the check follows them are chains of what the globals will hold. -/
theorem aliasChain_pending_iff {count : Nat} {id last : GlobalId} :
    AliasChain table (GlobalTable.initializerOf (unit.pending table)) count id last ↔
      AliasChain table unit.symbolOf count id last := by
  constructor
  · intro chain
    exact chain.transport fun id entry alive =>
      ⟨entry, alive, rfl, (initializerOf_pending alive).symm⟩
  · intro chain
    exact chain.transport fun id entry alive => ⟨entry, alive, rfl, initializerOf_pending alive⟩

/-- A module passes the check when each of its globals does, one at a time. -/
theorem checked_iff (owned : unit.Owned machine.globals) :
    unit.Checked machine ↔
      (∀ id ∈ unit.globals, ∃ entry, machine.globals.get? id = some entry ∧
        entry.isInitialised = false ∧ unit.HasSlotOf entry) ∧
      ∀ id ∈ unit.globals, unit.Accepts machine id := by
  constructor
  · intro checked
    refine ⟨?_, ?_⟩
    · intro id member
      obtain ⟨entry, alive⟩ := Option.isSome_iff_exists.mp (owned.alive id member)
      exact ⟨entry, alive, checked.uninitialised id entry ⟨member, alive⟩,
        checked.slots id entry ⟨member, alive⟩⟩
    · intro id member
      obtain ⟨entry, alive⟩ := Option.isSome_iff_exists.mp (owned.alive id member)
      refine ⟨entry, alive, ?_⟩
      by_cases isAlias : entry.kind.isAlias = true
      · rw [if_pos isAlias]
        exact checked.aliases id entry ⟨member, alive⟩ isAlias
      · have isVariable : entry.kind.isAlias = false := by simpa using isAlias
        rw [if_neg isAlias]
        refine ⟨checked.sized id entry ⟨member, alive⟩ isVariable, ?_⟩
        intro symbol held
        refine ⟨checked.fitting id entry ⟨member, alive⟩ isVariable symbol held, ?_⟩
        rintro target rfl
        exact checked.references id entry ⟨member, alive⟩ isVariable target held
  · rintro ⟨ready, accepted⟩
    have found : ∀ id entry, unit.Declares machine.globals id entry →
        (entry.isInitialised = false ∧ unit.HasSlotOf entry) ∧
          if entry.kind.isAlias then unit.AcceptsAlias machine id
          else unit.AcceptsVariable machine entry := by
      rintro id entry ⟨member, alive⟩
      obtain ⟨first, alive₁, readiness⟩ := ready id member
      obtain ⟨second, alive₂, acceptance⟩ := accepted id member
      rw [alive, Option.some.injEq] at alive₁ alive₂
      subst alive₁ alive₂
      exact ⟨readiness, acceptance⟩
    have suitable : ∀ id entry, unit.Declares machine.globals id entry →
        entry.kind.isAlias = false → unit.AcceptsVariable machine entry := by
      intro id entry declared isVariable
      simpa [isVariable] using (found id entry declared).2
    refine ⟨?_, ?_, ?_, ?_, ?_, ?_⟩
    · exact fun id entry declared => (found id entry declared).1.1
    · exact fun id entry declared => (found id entry declared).1.2
    · exact fun id entry declared isVariable => (suitable id entry declared isVariable).1
    · intro id entry declared isVariable symbol held
      exact ((suitable id entry declared isVariable).2 symbol held).1
    · intro id entry declared isVariable target held
      exact ((suitable id entry declared isVariable).2 _ held).2 target rfl
    · intro id entry declared isAlias
      have accepted := (found id entry declared).2
      rwa [if_pos isAlias] at accepted

theorem mem_layouts_iff {id : GlobalId} {size align : Nat} :
    (id, size, align) ∈ unit.layouts table ↔
      ∃ entry, unit.Declares table id entry ∧ entry.kind.isAlias = false ∧
        size = entry.storageSize ∧ align = entry.storageAlignment := by
  rw [layouts, List.mem_filterMap]
  constructor
  · rintro ⟨found, member, layout⟩
    rw [layout?] at layout
    cases alive : table.get? found with
    | none => simp [alive] at layout
    | some entry =>
        cases isAlias : entry.kind.isAlias with
        | true => simp [alive, isAlias] at layout
        | false =>
            simp only [alive, isAlias, Bool.false_eq_true, if_false, Option.some.injEq,
              Prod.mk.injEq] at layout
            obtain ⟨rfl, rfl, rfl⟩ := layout
            exact ⟨entry, ⟨member, alive⟩, isAlias, rfl, rfl⟩
  · rintro ⟨entry, ⟨member, alive⟩, isVariable, rfl, rfl⟩
    exact ⟨id, member, by simp [layout?, alive, isVariable]⟩

theorem nodup_layouts (nodup : unit.globals.Nodup) :
    ((unit.layouts table).map Prod.fst).Nodup := by
  have sublist : ((unit.layouts table).map Prod.fst).Sublist unit.globals := by
    rw [layouts]
    induction unit.globals with
    | nil => exact .slnil
    | cons id rest ih =>
        rw [List.filterMap_cons, layout?]
        cases table.get? id with
        | none => exact ih.cons id
        | some entry =>
            cases isAlias : entry.kind.isAlias with
            | true => simpa [isAlias] using ih.cons id
            | false => simpa [isAlias] using ih
  exact sublist.nodup nodup

end Module

namespace GlobalTable

theorem entry_eq_ok_iff {table : GlobalTable} {id : GlobalId} {entry : GlobalEntry} :
    table.entry id = .ok entry ↔ table.get? id = some entry := by
  rw [GlobalTable.entry]
  cases table.get? id <;> simp

theorem initializers_eq_ok_iff {table : GlobalTable} {unit : Module} {pending : Initializers} :
    table.initializers unit = .ok pending ↔
      (∀ id ∈ unit.globals, ∃ entry, table.get? id = some entry ∧ entry.isInitialised = false ∧
        unit.HasSlotOf entry) ∧ pending = unit.pending table := by
  rw [initializers, mapM_eq_ok_iff (fun id => ∃ entry, table.get? id = some entry ∧
    entry.isInitialised = false ∧ unit.HasSlotOf entry)
    (fun id => (id, (table.get? id).bind unit.initializer?))]
  · rfl
  · intro id _ answer
    simp only [bind_eq_ok_iff, entry_eq_ok_iff, GlobalEntry.pendingInitializer_eq_ok_iff]
    constructor
    · rintro ⟨entry, alive, symbol, ⟨⟨fresh, slot⟩, rfl⟩, final⟩
      refine ⟨⟨entry, alive, fresh, slot⟩, ?_⟩
      rw [alive]
      exact pure_eq_ok_iff.mp final
    · rintro ⟨⟨entry, alive, fresh, slot⟩, rfl⟩
      exact ⟨entry, alive, _, ⟨⟨fresh, slot⟩, rfl⟩, by rw [alive]; rfl⟩

end GlobalTable

namespace Machine

variable {machine : Machine} {unit : Module}

theorem checkPlaced_eq_ok_iff {id : GlobalId} {answer : Unit} :
    machine.checkPlaced (unit.pending machine.globals) id = .ok answer ↔
      unit.Places machine id := by
  rw [checkPlaced, Module.lookup_pending, Module.Places]
  by_cases own : id ∈ unit.globals
  · simp [own]
  · rw [if_neg own, if_neg (by simp), map_eq_ok_iff]
    simp [resolve_eq_ok_iff, own, Option.isSome_iff_exists]

theorem checkInitializer_eq_ok_iff {entry : GlobalEntry} {symbol : Symbol} {answer : Unit} :
    machine.checkInitializer (unit.pending machine.globals) entry symbol = .ok answer ↔
      symbol.fits entry.ty = true ∧ ∀ target, symbol = .global target →
        (machine.globals.get? target).isSome ∧ unit.Places machine target := by
  unfold checkInitializer
  by_cases fits : symbol.fits entry.ty = true
  · rw [if_pos fits]
    cases symbol with
    | global target =>
        simp only [bind_eq_ok_iff, GlobalTable.follow_eq_ok_iff, checkPlaced_eq_ok_iff, fits,
          true_and, Symbol.global.injEq, forall_eq', Option.isSome_iff_exists]
        constructor
        · rintro ⟨⟨found, other⟩, ⟨same, alive⟩, placed⟩
          subst same
          exact ⟨⟨other, alive⟩, placed⟩
        · rintro ⟨⟨other, alive⟩, placed⟩
          exact ⟨(target, other), ⟨rfl, alive⟩, placed⟩
    | _ => simp [fits]
  · simp [fits]

theorem checkGlobal_variable_eq_ok_iff {id : GlobalId} {entry : GlobalEntry}
    (declared : unit.Declares machine.globals id entry) (isVariable : entry.kind.isAlias = false)
    {answer : Option (GlobalId × Nat × Nat)} :
    machine.checkGlobal (unit.pending machine.globals) id = .ok answer ↔
      unit.AcceptsVariable machine entry ∧
        answer = some (id, entry.storageSize, entry.storageAlignment) := by
  obtain ⟨own, alive⟩ := declared
  rw [checkGlobal]
  simp only [bind_eq_ok_iff, GlobalTable.entry_eq_ok_iff, alive, Option.some.injEq,
    exists_eq_left', Module.lookup_pending, own, if_true, Option.bind_some]
  cases kind : entry.kind with
  | aliasDecl => simp [kind, GlobalKind.isAlias] at isVariable
  | varDecl constant =>
      simp only [bind_eq_ok_iff, GlobalEntry.layout_eq_ok_iff, Module.AcceptsVariable]
      cases held : unit.initializer? entry with
      | none =>
          simp only [bind_eq_ok_iff, pure_eq_ok_iff]
          simp
      | some symbol =>
          simp only [bind_eq_ok_iff, checkInitializer_eq_ok_iff, pure_eq_ok_iff,
            Option.some.injEq, forall_eq']
          constructor
          · rintro ⟨layout, ⟨sized, rfl⟩, _, accepted, rfl⟩
            exact ⟨⟨sized, accepted⟩, rfl⟩
          · rintro ⟨⟨sized, accepted⟩, rfl⟩
            exact ⟨_, ⟨sized, rfl⟩, (), accepted, rfl⟩

theorem checkGlobal_alias_eq_ok_iff {id : GlobalId} {entry : GlobalEntry}
    (alive : machine.globals.get? id = some entry) (isAlias : entry.kind.isAlias = true)
    {answer : Option (GlobalId × Nat × Nat)} :
    machine.checkGlobal (unit.pending machine.globals) id = .ok answer ↔
      unit.AcceptsAlias machine id ∧ answer = none := by
  rw [checkGlobal]
  simp only [bind_eq_ok_iff, GlobalTable.entry_eq_ok_iff, alive, Option.some.injEq,
    exists_eq_left']
  cases kind : entry.kind with
  | varDecl constant => simp [kind, GlobalKind.isAlias] at isAlias
  | aliasDecl =>
      simp only [bind_eq_ok_iff, checkPlaced_eq_ok_iff, pure_eq_ok_iff,
        GlobalTable.aliasTarget_eq_ok_iff alive isAlias, Module.aliasChain_pending_iff]
      constructor
      · rintro ⟨⟨last, _⟩, ⟨⟨count, bound, chain⟩, _⟩, _, placed, rfl⟩
        exact ⟨⟨count, last, bound, chain, placed⟩, rfl⟩
      · rintro ⟨⟨count, last, bound, chain, placed⟩, rfl⟩
        obtain ⟨final, lastAlive, _⟩ := chain.isVariable_last
        exact ⟨(last, final), ⟨⟨count, bound, chain⟩, lastAlive⟩, (), placed, rfl⟩

theorem checkGlobal_eq_ok_iff {id : GlobalId} (own : id ∈ unit.globals)
    {answer : Option (GlobalId × Nat × Nat)} (alive : (machine.globals.get? id).isSome) :
    machine.checkGlobal (unit.pending machine.globals) id = .ok answer ↔
      unit.Accepts machine id ∧ answer = Module.layout? machine.globals id := by
  obtain ⟨entry, found⟩ := Option.isSome_iff_exists.mp alive
  cases isAlias : entry.kind.isAlias with
  | true =>
      rw [checkGlobal_alias_eq_ok_iff found isAlias]
      simp [Module.Accepts, Module.layout?, found, isAlias]
  | false =>
      rw [checkGlobal_variable_eq_ok_iff ⟨own, found⟩ isAlias]
      simp [Module.Accepts, Module.layout?, found, isAlias]

/-- The check succeeds for the modules that satisfy `Module.Checked`, and only for these. -/
theorem checkModule_eq_ok_iff (owned : unit.Owned machine.globals)
    {answer : Initializers × List (GlobalId × Nat × Nat)} :
    machine.checkModule unit = .ok answer ↔
      unit.Checked machine ∧
        answer = (unit.pending machine.globals, unit.layouts machine.globals) := by
  rw [checkModule]
  simp only [bind_eq_ok_iff, GlobalTable.initializers_eq_ok_iff, pure_eq_ok_iff,
    Module.checked_iff owned]
  have each : ∀ results, unit.globals.mapM
      (machine.checkGlobal (unit.pending machine.globals)) = .ok results ↔
        (∀ id ∈ unit.globals, unit.Accepts machine id) ∧
          results = unit.globals.map (Module.layout? machine.globals) := by
    intro results
    exact mapM_eq_ok_iff _ _ fun id own _ => checkGlobal_eq_ok_iff own (owned.alive id own)
  constructor
  · rintro ⟨pending, ⟨ready, rfl⟩, results, ran, rfl⟩
    obtain ⟨accepted, rfl⟩ := (each results).mp ran
    exact ⟨⟨ready, accepted⟩, by rw [List.filterMap_map]; rfl⟩
  · rintro ⟨⟨ready, accepted⟩, rfl⟩
    refine ⟨_, ⟨ready, rfl⟩, _, (each _).mpr ⟨accepted, rfl⟩, ?_⟩
    rw [List.filterMap_map]
    rfl

end Machine

end IrMachine
