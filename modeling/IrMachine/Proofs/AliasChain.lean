import IrMachine.Global.Finalize
import IrMachine.Proofs.Globals

/-!
# Chains of aliases

An alias stands for the variable at the end of its chain of references. `AliasChain` is that chain
as a relation, without any limit: it counts the aliases from a global on and names the variable they
lead to. `GlobalTable.aliasTarget_eq_ok_iff` says that the search answers exactly when there is
such a chain of at most `maxAliases` aliases, and with the variable at its end.

What an entry names is a parameter, because a chain is looked at before the symbols of a module are
stored in its entries and afterwards.
-/

namespace IrMachine

/-- From a global on, `count` aliases in a row lead to the variable `last`; all globals on the way
exist. -/
inductive AliasChain (table : GlobalTable) (names : GlobalId → GlobalEntry → Option Symbol) :
    Nat → GlobalId → GlobalId → Prop where
  | here {id : GlobalId} {entry : GlobalEntry} (alive : table.get? id = some entry)
      (isVariable : entry.kind.isAlias = false) : AliasChain table names 0 id id
  | next {count : Nat} {id target last : GlobalId} {entry : GlobalEntry}
      (alive : table.get? id = some entry) (isAlias : entry.kind.isAlias = true)
      (named : names id entry = some (.global target))
      (rest : AliasChain table names count target last) :
      AliasChain table names (count + 1) id last

namespace AliasChain

variable {table table' : GlobalTable} {names names' : GlobalId → GlobalEntry → Option Symbol}
variable {count : Nat} {id last : GlobalId}

/-- Every chain starts at a global that exists. -/
theorem alive_start (chain : AliasChain table names count id last) :
    ∃ entry, table.get? id = some entry := by
  cases chain with
  | here alive _ => exact ⟨_, alive⟩
  | next alive _ _ _ => exact ⟨_, alive⟩

/-- A chain ends in a variable. -/
theorem isVariable_last (chain : AliasChain table names count id last) :
    ∃ entry, table.get? last = some entry ∧ entry.kind.isAlias = false := by
  induction chain with
  | here alive isVariable => exact ⟨_, alive, isVariable⟩
  | next _ _ _ _ ih => exact ih

/-- A chain only looks at the kind of an entry and at what it names. -/
theorem transport (chain : AliasChain table names count id last)
    (same : ∀ id entry, table.get? id = some entry →
      ∃ entry', table'.get? id = some entry' ∧ entry'.kind = entry.kind ∧
        names' id entry' = names id entry) :
    AliasChain table' names' count id last := by
  induction chain with
  | here alive isVariable =>
      obtain ⟨entry', alive', kind, _⟩ := same _ _ alive
      exact .here alive' (by rw [kind]; exact isVariable)
  | next alive isAlias named _ ih =>
      obtain ⟨entry', alive', kind, names⟩ := same _ _ alive
      exact .next alive' (by rw [kind]; exact isAlias) (by rw [names]; exact named) ih

end AliasChain

namespace GlobalTable

variable {table : GlobalTable} {pending : Initializers}

theorem follow_eq_ok_iff {referrer : GlobalEntry} {id : GlobalId}
    {target : GlobalId × GlobalEntry} :
    table.follow referrer id = .ok target ↔ target.1 = id ∧ table.get? id = some target.2 := by
  obtain ⟨found, entry⟩ := target
  rw [follow]
  cases table.get? id with
  | none => simp
  | some other => simp [eq_comm]

theorem referenced_eq_ok_iff {id : GlobalId} {entry : GlobalEntry}
    {target : GlobalId × GlobalEntry} :
    table.referenced pending id entry = .ok target ↔
      initializerOf pending id entry = some (.global target.1) ∧
        table.get? target.1 = some target.2 := by
  rw [referenced]
  cases named : initializerOf pending id entry with
  | none => simp
  | some symbol =>
      cases symbol with
      | global other =>
          simp only [follow_eq_ok_iff, Option.some.injEq, Symbol.global.injEq]
          constructor
          · rintro ⟨rfl, alive⟩
            exact ⟨rfl, alive⟩
          · rintro ⟨rfl, alive⟩
            exact ⟨rfl, alive⟩
      | _ => simp

/-- The search with `fuel` looks at chains of fewer than `fuel` aliases. -/
theorem followAliases_eq_ok_iff {origin : GlobalEntry} {fuel : Nat} {id : GlobalId}
    {entry : GlobalEntry} (alive : table.get? id = some entry)
    {target : GlobalId × GlobalEntry} :
    table.followAliases pending origin fuel (id, entry) = .ok target ↔
      (∃ count, count < fuel ∧ AliasChain table (initializerOf pending) count id target.1) ∧
        table.get? target.1 = some target.2 := by
  induction fuel generalizing id entry with
  | zero => simp [followAliases]
  | succ fuel ih =>
      rw [followAliases]
      by_cases isAlias : entry.kind.isAlias = true
      · rw [if_pos isAlias, bind_eq_ok_iff]
        constructor
        · rintro ⟨⟨step, stepEntry⟩, found, rest⟩
          obtain ⟨named, stepAlive⟩ := referenced_eq_ok_iff.mp found
          obtain ⟨⟨count, bound, chain⟩, final⟩ := (ih stepAlive).mp rest
          exact ⟨⟨count + 1, by omega, .next alive isAlias named chain⟩, final⟩
        · rintro ⟨⟨count, bound, chain⟩, final⟩
          cases chain with
          | here alive' isVariable =>
              rw [alive, Option.some.injEq] at alive'
              rw [alive', isVariable] at isAlias
              cases isAlias
          | next alive' _ named rest =>
              obtain ⟨stepEntry, stepAlive⟩ := rest.alive_start
              rw [alive, Option.some.injEq] at alive'
              subst alive'
              exact ⟨(_, stepEntry), referenced_eq_ok_iff.mpr ⟨named, stepAlive⟩,
                (ih stepAlive).mpr ⟨⟨_, by omega, rest⟩, final⟩⟩
      · have isVariable : entry.kind.isAlias = false := by simpa using isAlias
        rw [if_neg isAlias]
        constructor
        · intro h
          cases h
          exact ⟨⟨0, by omega, .here alive isVariable⟩, alive⟩
        · rintro ⟨⟨count, _, chain⟩, final⟩
          cases chain with
          | here => rw [Option.some.inj (alive.symm.trans final)]
          | next alive' isAlias' _ _ =>
              rw [Option.some.inj (alive.symm.trans alive')] at isAlias
              exact absurd isAlias' isAlias

/-- The first step of the search is like every other one, so it counts as one more unit of fuel. -/
theorem aliasTarget_eq_followAliases {entry : GlobalEntry} (isAlias : entry.kind.isAlias = true)
    (table : GlobalTable) (pending : Initializers) (id : GlobalId) :
    table.aliasTarget pending id entry =
      table.followAliases pending entry (maxAliases + 1) (id, entry) := by
  rw [followAliases, if_pos isAlias]
  rfl

/-- An alias stands for the variable at the end of its chain, if the chain has at most `maxAliases`
aliases, itself included. -/
theorem aliasTarget_eq_ok_iff {id : GlobalId} {entry : GlobalEntry}
    (alive : table.get? id = some entry) (isAlias : entry.kind.isAlias = true)
    {target : GlobalId × GlobalEntry} :
    table.aliasTarget pending id entry = .ok target ↔
      (∃ count, count ≤ maxAliases ∧
        AliasChain table (initializerOf pending) count id target.1) ∧
        table.get? target.1 = some target.2 := by
  rw [aliasTarget_eq_followAliases isAlias, followAliases_eq_ok_iff alive]
  simp only [Nat.lt_succ_iff]

end GlobalTable

end IrMachine
