import IrMachine.Proofs.Finalize.Outcome

/-!
# The search for the variable behind an alias

`AliasPath` is the walk along references from alias to alias, over any graph of globals. It has no
limit and need not end in a variable, so that it also goes round a cycle. A chain of aliases is a
walk that ends in a variable (`aliasChain_iff`), walks from the same global follow one another
(`AliasPath.unique`), and a walk that comes to a cycle can be made as long as one likes
(`AliasPath.of_cycle`).

The search answers by the length of the walk: with the variable at its end if that is reached within
64 aliases, and otherwise with a fault of the globals on the way. It is made twice while a module is
finalised, before and after the module's initializers are stored in its entries, and
`aliasTarget_settled` says that it makes no difference which of the two places it reads.
-/

namespace IrMachine

def AliasStep (table : GlobalTable) (names : GlobalId → GlobalEntry → Option Symbol)
    (id target : GlobalId) : Prop :=
  ∃ entry, table.get? id = some entry ∧ entry.kind.isAlias = true ∧
    names id entry = some (.global target) ∧ (table.get? target).isSome

/-- From a global on, `count` aliases in a row lead to the global `last`, of whatever kind. -/
inductive AliasPath (table : GlobalTable) (names : GlobalId → GlobalEntry → Option Symbol) :
    Nat → GlobalId → GlobalId → Prop where
  | refl (id : GlobalId) : AliasPath table names 0 id id
  | step {count : Nat} {id target last : GlobalId} (first : AliasStep table names id target)
      (rest : AliasPath table names count target last) : AliasPath table names (count + 1) id last

section Walks

variable {table : GlobalTable} {names : GlobalId → GlobalEntry → Option Symbol}
variable {count more : Nat} {id other last : GlobalId} {entry : GlobalEntry}

theorem AliasStep.unique (step : AliasStep table names id last)
    (step' : AliasStep table names id other) : last = other := by
  obtain ⟨entry, alive, _, named, _⟩ := step
  obtain ⟨entry', alive', _, named', _⟩ := step'
  obtain rfl := Option.some.inj (alive.symm.trans alive')
  exact Symbol.global.inj (Option.some.inj (named.symm.trans named'))

namespace AliasPath

theorem append (path : AliasPath table names count id other)
    (rest : AliasPath table names more other last) :
    AliasPath table names (count + more) id last := by
  induction path with
  | refl => rwa [Nat.zero_add]
  | step first _ ih =>
      rw [Nat.succ_add]
      exact .step first (ih rest)

/-- A walk has walks of all smaller lengths in front. -/
theorem split (path : AliasPath table names (count + more) id last) :
    ∃ middle, AliasPath table names count id middle ∧ AliasPath table names more middle last := by
  induction count generalizing id with
  | zero =>
      rw [Nat.zero_add] at path
      exact ⟨id, .refl id, path⟩
  | succ count ih =>
      rw [Nat.succ_add] at path
      cases path with
      | step first rest =>
          obtain ⟨middle, front, back⟩ := ih rest
          exact ⟨middle, .step first front, back⟩

/-- An alias names one global, so walks of the same length end in the same place. -/
theorem unique (path : AliasPath table names count id last)
    (path' : AliasPath table names count id other) : last = other := by
  induction path with
  | refl => cases path'; rfl
  | step first _ ih =>
      cases path' with
      | step first' rest' =>
          obtain rfl := first.unique first'
          exact ih rest'

/-- No walk leads on from a variable. -/
theorem of_variable (path : AliasPath table names count id last)
    (alive : table.get? id = some entry) (isVariable : entry.kind.isAlias = false) :
    count = 0 := by
  cases path with
  | refl => rfl
  | step first _ =>
      obtain ⟨entry', alive', isAlias, _⟩ := first
      obtain rfl := Option.some.inj (alive.symm.trans alive')
      rw [isVariable] at isAlias
      cases isAlias

/-- A walk that comes to a cycle goes on for ever. -/
theorem of_cycle (reach : AliasPath table names more id other) {around : Nat}
    (cycle : AliasPath table names around other other) (positive : 0 < around) (count : Nat) :
    ∃ last, AliasPath table names count id last := by
  have rounds : ∀ times, AliasPath table names (times * around) other other := by
    intro times
    induction times with
    | zero =>
        rw [Nat.zero_mul]
        exact .refl other
    | succ times ih =>
        rw [Nat.succ_mul]
        exact ih.append cycle
  have far := reach.append (rounds count)
  have enough : count ≤ more + count * around := by
    have := Nat.le_mul_of_pos_right count positive
    omega
  rw [← Nat.add_sub_cancel' enough] at far
  obtain ⟨middle, front, _⟩ := far.split
  exact ⟨middle, front⟩

/-- From every global on the way to a variable, the rest of the way leads to it. -/
theorem remainder (path : AliasPath table names count id last)
    (alive : table.get? last = some entry) (isVariable : entry.kind.isAlias = false)
    (part : AliasPath table names more id other) :
    more ≤ count ∧ AliasPath table names (count - more) other last := by
  have within : more ≤ count := by
    by_contra longer
    rw [← Nat.add_sub_cancel' (Nat.le_of_not_le longer)] at part
    obtain ⟨middle, front, back⟩ := part.split
    obtain rfl := front.unique path
    have := back.of_variable alive isVariable
    omega
  rw [← Nat.add_sub_cancel' within] at path
  obtain ⟨middle, front, back⟩ := path.split
  obtain rfl := front.unique part
  exact ⟨within, back⟩

end AliasPath

/-- A chain of aliases is a walk to a variable. -/
theorem aliasChain_iff :
    AliasChain table names count id last ↔
      AliasPath table names count id last ∧
        ∃ entry, table.get? last = some entry ∧ entry.kind.isAlias = false := by
  constructor
  · intro chain
    refine ⟨?_, chain.isVariable_last⟩
    induction chain with
    | here => exact .refl _
    | next alive isAlias named rest ih =>
        have existing := Option.isSome_iff_exists.mpr rest.alive_start
        exact .step ⟨_, alive, isAlias, named, existing⟩ ih
  · rintro ⟨path, entry, alive, isVariable⟩
    induction path with
    | refl => exact .here alive isVariable
    | step first _ ih =>
        obtain ⟨_, alive', isAlias, named, _⟩ := first
        exact .next alive' isAlias named (ih alive)

end Walks

namespace GlobalTable

variable {table : GlobalTable} {pending : Initializers} {id : GlobalId} {entry : GlobalEntry}

theorem aliasTarget_eq_ok_iff_path (alive : table.get? id = some entry)
    (isAlias : entry.kind.isAlias = true) {target : GlobalId × GlobalEntry} :
    table.aliasTarget pending id entry = .ok target ↔
      (∃ count, count ≤ 64 ∧ AliasPath table (initializerOf pending) count id target.1) ∧
        table.get? target.1 = some target.2 ∧ target.2.kind.isAlias = false := by
  rw [aliasTarget_eq_ok_iff alive isAlias]
  constructor
  · rintro ⟨⟨count, bound, chain⟩, final⟩
    obtain ⟨path, last, lastAlive, isVariable⟩ := aliasChain_iff.mp chain
    obtain rfl := Option.some.inj (final.symm.trans lastAlive)
    exact ⟨⟨count, bound, path⟩, final, isVariable⟩
  · rintro ⟨⟨count, bound, path⟩, final, isVariable⟩
    exact ⟨⟨count, bound, aliasChain_iff.mpr ⟨path, _, final, isVariable⟩⟩, final⟩

/-- The search gives up when it has followed as many aliases as it has fuel. -/
theorem followAliases_of_path {origin : GlobalEntry} {fuel : Nat} {last : GlobalId}
    (path : AliasPath table (initializerOf pending) fuel id last)
    (alive : table.get? id = some entry) :
    table.followAliases pending origin fuel (id, entry) = .error (origin.fault .aliasUnending) := by
  induction path generalizing entry with
  | refl => rfl
  | step first _ ih =>
      obtain ⟨entry', alive', isAlias, named, existing⟩ := first
      obtain rfl := Option.some.inj (alive.symm.trans alive')
      obtain ⟨next, nextAlive⟩ := Option.isSome_iff_exists.mp existing
      have found : table.referenced pending _ entry = .ok (_, next) :=
        referenced_eq_ok_iff.mpr ⟨named, nextAlive⟩
      rw [followAliases, if_pos isAlias, found]
      exact ih nextAlive

theorem aliasTarget_of_path (alive : table.get? id = some entry)
    (isAlias : entry.kind.isAlias = true) {count : Nat} {last : GlobalId} (long : 64 < count)
    (path : AliasPath table (initializerOf pending) count id last) :
    table.aliasTarget pending id entry = .error (entry.fault .aliasUnending) := by
  rw [← Nat.add_sub_cancel' (Nat.succ_le_of_lt long)] at path
  obtain ⟨middle, front, _⟩ := path.split
  rw [aliasTarget_eq_followAliases isAlias]
  exact followAliases_of_path front alive

theorem referenced_eq_error {fault : Fault}
    (failed : table.referenced pending id entry = .error fault) :
    ∃ name cause, fault = .lifecycle name cause := by
  rw [referenced] at failed
  split at failed
  · rw [follow] at failed
    split at failed <;> cases failed
    exact ⟨_, _, rfl⟩
  · cases failed
    exact ⟨_, _, rfl⟩

theorem followAliases_eq_error {origin : GlobalEntry} {fuel : Nat}
    {start : GlobalId × GlobalEntry} {fault : Fault}
    (failed : table.followAliases pending origin fuel start = .error fault) :
    ∃ name cause, fault = .lifecycle name cause := by
  induction fuel generalizing start with
  | zero =>
      cases failed
      exact ⟨_, _, rfl⟩
  | succ fuel ih =>
      rw [followAliases] at failed
      split at failed
      · obtain here | ⟨next, _, later⟩ := bind_eq_error_iff.mp failed
        · exact referenced_eq_error here
        · exact ih later
      · cases failed

/-- What the search behind an alias answers. -/
structure SearchesExactly (table : GlobalTable) (pending : Initializers) (id : GlobalId)
    (entry : GlobalEntry) : Prop where
  /-- It finds a variable if and only if a walk over at most 64 aliases leads there. -/
  finds : ∀ last final, table.aliasTarget pending id entry = .ok (last, final) ↔
    (∃ count, count ≤ 64 ∧ AliasPath table (initializerOf pending) count id last) ∧
      table.get? last = some final ∧ final.kind.isAlias = false
  /-- Every other answer is a fault of a global's life. -/
  refuses : ∀ fault, table.aliasTarget pending id entry = .error fault →
    ∃ name cause, fault = .lifecycle name cause
  /-- A walk over more aliases is given up, with a fault of the alias that started it. -/
  givesUp : ∀ count last, 64 < count → AliasPath table (initializerOf pending) count id last →
    table.aliasTarget pending id entry = .error (entry.fault .aliasUnending)
  /-- So is every walk into a cycle. -/
  cycles : ∀ count around other, AliasPath table (initializerOf pending) count id other →
    0 < around → AliasPath table (initializerOf pending) around other other →
    table.aliasTarget pending id entry = .error (entry.fault .aliasUnending)
  /-- All aliases on the way to a variable stand for it. -/
  shared : ∀ target, table.aliasTarget pending id entry = .ok target →
    ∀ count other otherEntry, AliasPath table (initializerOf pending) count id other →
      table.get? other = some otherEntry → otherEntry.kind.isAlias = true →
      table.aliasTarget pending other otherEntry = .ok target

theorem searchesExactly (alive : table.get? id = some entry)
    (isAlias : entry.kind.isAlias = true) : table.SearchesExactly pending id entry where
  finds last final := aliasTarget_eq_ok_iff_path alive isAlias
  refuses fault failed := by
    rw [aliasTarget_eq_followAliases isAlias] at failed
    exact followAliases_eq_error failed
  givesUp count last long path := aliasTarget_of_path alive isAlias long path
  cycles count around other reach positive cycle := by
    obtain ⟨last, path⟩ := reach.of_cycle cycle positive 65
    exact aliasTarget_of_path alive isAlias (by decide) path
  shared target found count other otherEntry part otherAlive otherAlias := by
    obtain ⟨⟨whole, bound, path⟩, final, isVariable⟩ :=
      (aliasTarget_eq_ok_iff_path alive isAlias).mp found
    obtain ⟨_, rest⟩ := path.remainder final isVariable part
    refine (aliasTarget_eq_ok_iff_path otherAlive otherAlias).mpr ?_
    exact ⟨⟨whole - count, by omega, rest⟩, final, isVariable⟩

end GlobalTable

namespace Module

/-- A global with the entry that it has once the module is finalised. -/
def settledAt (unit : Module) (global : GlobalId × GlobalEntry) : GlobalId × GlobalEntry :=
  (global.1, unit.settled global.1 global.2)

theorem settled_fault (unit : Module) (id : GlobalId) (entry : GlobalEntry)
    (cause : LifecycleCause) : (unit.settled id entry).fault cause = entry.fault cause := by
  rw [settled]
  split <;> rfl

end Module

namespace GlobalTable

section Settled

variable {table globals : GlobalTable} {unit : Module} {pending seen : Initializers}
variable {id : GlobalId} {entry : GlobalEntry}
variable (entries : ∀ id, globals.get? id = (table.get? id).map (unit.settled id))
variable (shown : ∀ id entry, table.get? id = some entry →
  initializerOf seen id (unit.settled id entry) = initializerOf pending id entry)
include entries shown

theorem referenced_settled (alive : table.get? id = some entry) :
    globals.referenced seen id (unit.settled id entry) =
      (table.referenced pending id entry).map unit.settledAt := by
  rw [referenced, referenced, shown id entry alive]
  split
  · rw [follow, follow, entries]
    cases table.get? _ with
    | none => exact congrArg Except.error (unit.settled_fault ..)
    | some target => rfl
  · exact congrArg Except.error (unit.settled_fault ..)

theorem followAliases_settled (origin : GlobalId) (first : GlobalEntry) (fuel : Nat)
    (alive : table.get? id = some entry) :
    globals.followAliases seen (unit.settled origin first) fuel (id, unit.settled id entry) =
      (table.followAliases pending first fuel (id, entry)).map unit.settledAt := by
  induction fuel generalizing id entry with
  | zero => exact congrArg Except.error (unit.settled_fault ..)
  | succ fuel ih =>
      rw [followAliases, followAliases, Module.settled_kind]
      by_cases isAlias : entry.kind.isAlias = true
      · rw [if_pos isAlias, if_pos isAlias, referenced_settled entries shown alive]
        cases found : table.referenced pending id entry with
        | error fault => rfl
        | ok target => exact ih (referenced_eq_ok_iff.mp found).2
      · rw [if_neg isAlias, if_neg isAlias]
        rfl

/-- The search gives the same answer once the entries of a module are settled, if it is shown the
same initializers. -/
theorem aliasTarget_settled (alive : table.get? id = some entry) :
    globals.aliasTarget seen id (unit.settled id entry) =
      (table.aliasTarget pending id entry).map unit.settledAt := by
  rw [aliasTarget, aliasTarget, referenced_settled entries shown alive]
  cases found : table.referenced pending id entry with
  | error fault => rfl
  | ok target =>
      exact followAliases_settled entries shown id entry maxAliases
        (referenced_eq_ok_iff.mp found).2

end Settled

end GlobalTable

namespace Machine

/-- Storing the initializers of a module does not change where its aliases lead, neither for a
search that is still given the initializers nor for one that reads the entries. -/
theorem aliasTarget_initialised {machine : Machine} {unit : Module} {pending : Initializers}
    (owned : unit.Owned machine.globals)
    (looked : machine.globals.initializers unit = .ok pending) :
    ∃ globals, (unit.globals.forM fun id => initialise id unit.symbols).on machine =
        (.ok (), { machine with globals }) ∧
      ∀ id entry, machine.globals.get? id = some entry → ∀ seen, seen = pending ∨ seen = [] →
        globals.aliasTarget seen id (unit.settled id entry) =
          (machine.globals.aliasTarget pending id entry).map unit.settledAt := by
  obtain ⟨ready, rfl⟩ := GlobalTable.initializers_eq_ok_iff.mp looked
  obtain ⟨globals, ran, _, entries⟩ := initialiseAll_ok machine owned (by
    rintro id entry ⟨member, alive⟩
    obtain ⟨entry', alive', unused⟩ := ready id member
    obtain rfl := Option.some.inj (alive.symm.trans alive')
    exact unused)
  refine ⟨globals, ran, ?_⟩
  intro id entry alive seen source
  refine GlobalTable.aliasTarget_settled entries ?_ alive
  intro id entry alive
  rw [Module.initializerOf_pending alive]
  obtain rfl | rfl := source
  · exact Module.initializerOf_settled alive
  · exact unit.settled_value? id entry

/-- The search behind an alias follows the chain of references exactly up to its limit, on any graph
of globals, and it leads to the same variable before and after the initializers of a module are
stored in its entries. -/
theorem alias_search_exact (machine : Machine) (pending : Initializers) (id : GlobalId)
    (entry : GlobalEntry) (alive : machine.globals.get? id = some entry)
    (isAlias : entry.kind.isAlias = true) :
    machine.globals.SearchesExactly pending id entry ∧
    ∀ unit : Module, unit.Owned machine.globals →
      machine.globals.initializers unit = .ok pending →
      ∃ globals, (unit.globals.forM fun id => initialise id unit.symbols).on machine =
          (.ok (), { machine with globals }) ∧
        ∀ seen, seen = pending ∨ seen = [] →
          globals.aliasTarget seen id (unit.settled id entry) =
            (machine.globals.aliasTarget pending id entry).map unit.settledAt := by
  refine ⟨GlobalTable.searchesExactly alive isAlias, ?_⟩
  intro unit owned looked
  obtain ⟨globals, ran, same⟩ := aliasTarget_initialised owned looked
  exact ⟨globals, ran, same id entry alive⟩

/-- A variable, an alias of it that was resolved before, an alias that is about to be resolved, and
one that is about to name itself. -/
def sampleAliases : Machine :=
  { start { memoryBase := 0x100, memorySize := 64, stackSize := 16 } with
    globals := ⟨#[some (.new (.varDecl false) .pointer 8 none),
      some ((GlobalEntry.new .aliasDecl .pointer 8 none).resolve (some (.global ⟨0⟩))),
      some (.new .aliasDecl .pointer 8 (some 1)), some (.new .aliasDecl .pointer 8 (some 2))]⟩ }

def samplePending : Initializers := [(⟨2⟩, some (.global ⟨1⟩)), (⟨3⟩, some (.global ⟨3⟩))]

/-- The third global stands for the first one, by way of the second; the fourth one for nothing. -/
theorem sample_searched :
    sampleAliases.globals.aliasTarget samplePending ⟨2⟩ (.new .aliasDecl .pointer 8 (some 1)) =
      .ok (⟨0⟩, .new (.varDecl false) .pointer 8 none) ∧
    sampleAliases.globals.aliasTarget samplePending ⟨3⟩ (.new .aliasDecl .pointer 8 (some 2)) =
      .error (.lifecycle "<anon>" .aliasUnending) := by
  obtain ⟨third, _⟩ := alias_search_exact sampleAliases samplePending ⟨2⟩ _ rfl rfl
  obtain ⟨fourth, _⟩ := alias_search_exact sampleAliases samplePending ⟨3⟩ _ rfl rfl
  have resolved : AliasStep sampleAliases.globals (GlobalTable.initializerOf samplePending)
      ⟨1⟩ ⟨0⟩ := ⟨_, rfl, rfl, rfl, rfl⟩
  refine ⟨(third.finds ⟨0⟩ _).mpr ⟨⟨2, by decide, ?_⟩, rfl, rfl⟩, ?_⟩
  · exact .step ⟨_, rfl, rfl, rfl, rfl⟩ (.step resolved (.refl _))
  · exact fourth.cycles 0 1 ⟨3⟩ (.refl _) (by decide) (.step ⟨_, rfl, rfl, rfl, rfl⟩ (.refl _))

end Machine

end IrMachine
