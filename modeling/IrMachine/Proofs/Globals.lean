import IrMachine.Proofs.Computation
import Mathlib.Tactic.Common

/-!
# Laws of globals, their places, and stacks

Tables are looked at through their look-ups only: what a look-up gives after an entry, a place or a
stack was recorded. `Module.initializer?` is what a module's symbols say an entry should hold, and
`Module.Owned` is what a module relies on: its own globals exist, and none is listed twice.
-/

namespace IrMachine

theorem lookup_replace {κ β : Type} [DecidableEq κ] (pairs : List (κ × β)) (key query : κ)
    (value : β) :
    ((key, value) :: pairs.filter (·.1 != key)).lookup query =
      if query = key then some value else pairs.lookup query := by
  by_cases same : query = key
  · subst same
    simp
  · have other : (query == key) = false := beq_false_of_ne same
    rw [List.lookup_cons, other, if_neg same]
    induction pairs with
    | nil => rfl
    | cons pair rest ih =>
        obtain ⟨first, found⟩ := pair
        by_cases dropped : first = key
        · subst dropped
          simpa [List.lookup_cons, other] using ih
        · cases hit : query == first <;> simp [dropped, List.lookup_cons, hit, ih]

namespace Locations

@[simp] theorem get?_bind (locations : Locations) (id query : GlobalId) (location : UInt64) :
    (locations.bind id location).get? query =
      if query = id then some location else locations.get? query :=
  lookup_replace ..

end Locations

namespace GlobalTable

theorem get?_set {table : GlobalTable} {id : GlobalId} {old : GlobalEntry}
    (alive : table.get? id = some old) (entry : GlobalEntry) (query : GlobalId) :
    (table.set id entry).get? query = if query = id then some entry else table.get? query := by
  have bound : id.index < table.entries.size := by
    by_contra outside
    rw [get?, Array.getElem?_eq_none (Nat.le_of_not_lt outside)] at alive
    cases alive
  rw [get?, set, Array.getElem?_setIfInBounds]
  by_cases same : query = id
  · subst same
    simp [bound]
  · have apart : id.index ≠ query.index := by
      intro equal
      exact same (by cases query; cases id; exact congrArg GlobalId.mk equal.symm)
    simp [same, apart, get?]

theorem get?_declare (table : GlobalTable) (entry : GlobalEntry) (query : GlobalId) :
    (table.declare entry).2.get? query =
      if query = (table.declare entry).1 then some entry else table.get? query := by
  simp only [declare, get?, Array.getElem?_push]
  by_cases same : query = ⟨table.entries.size⟩
  · subst same
    simp
  · have apart : query.index ≠ table.entries.size := fun equal => same (by rw [← equal])
    simp [same, apart]

/-- A position that was not given out yet holds nothing. -/
theorem get?_declare_fresh (table : GlobalTable) (entry : GlobalEntry) :
    table.get? (table.declare entry).1 = none := by
  simp [declare, get?]

theorem get?_collect (table : GlobalTable) (referred : List GlobalId) (query : GlobalId) :
    (table.collect referred).get? query =
      if query ∈ referred then table.get? query else none := by
  simp only [collect, get?, Array.getElem?_mapIdx]
  by_cases kept : query ∈ referred
  · cases found : table.entries[query.index]? <;> simp [kept]
  · cases found : table.entries[query.index]? <;> simp [kept]

end GlobalTable

namespace GlobalEntry

def resolve (entry : GlobalEntry) (symbol : Option Symbol) : GlobalEntry :=
  { entry with resolution := .resolved symbol }

@[simp] theorem resolve_slot (entry : GlobalEntry) (symbol : Option Symbol) :
    (entry.resolve symbol).slot = entry.slot := rfl

@[simp] theorem resolve_value? (entry : GlobalEntry) (symbol : Option Symbol) :
    (entry.resolve symbol).value? = symbol := rfl

/-- The alignment of a variable's storage: the declared one, or else the natural one. -/
def storageAlignment (entry : GlobalEntry) : Nat :=
  if entry.alignment = 0 then entry.ty.alignment else entry.alignment

/-- The bytes that a variable's storage takes, which are never none. -/
def storageSize (entry : GlobalEntry) : Nat := max entry.ty.byteSize 1

theorem byteSize_le_storageSize (entry : GlobalEntry) : entry.ty.byteSize ≤ entry.storageSize :=
  Nat.le_max_left ..

theorem layout_eq_ok_iff {entry : GlobalEntry} {layout : Nat × Nat} :
    entry.layout = .ok layout ↔
      entry.ty.size?.isSome ∧ layout = (entry.storageSize, entry.storageAlignment) := by
  rw [GlobalEntry.layout]
  cases measured : entry.ty.size? with
  | none => simp
  | some size => simp [storageSize, storageAlignment, Ty.byteSize, measured, eq_comm]

end GlobalEntry

namespace Module

/-- What the module's symbols say an entry of the module should hold. -/
def initializer? (unit : Module) (entry : GlobalEntry) : Option Symbol :=
  entry.slot.bind fun slot => unit.symbols[slot - 1]?

/-- The slot of an entry, if it has one, is a slot of the module. -/
def HasSlotOf (unit : Module) (entry : GlobalEntry) : Prop :=
  ∀ slot, entry.slot = some slot → slot - 1 < unit.symbols.length

/-- A module's own globals exist, and each is listed once. -/
structure Owned (unit : Module) (table : GlobalTable) : Prop where
  nodup : unit.globals.Nodup
  alive : ∀ id ∈ unit.globals, (table.get? id).isSome

end Module

namespace GlobalEntry

theorem pendingInitializer_eq_ok_iff {entry : GlobalEntry} {unit : Module}
    {symbol : Option Symbol} :
    entry.pendingInitializer unit.symbols = .ok symbol ↔
      (entry.isInitialised = false ∧ unit.HasSlotOf entry) ∧ symbol = unit.initializer? entry := by
  rw [pendingInitializer]
  cases started : entry.isInitialised with
  | true => simp
  | false =>
      cases slotted : entry.slot with
      | none => simp [Module.HasSlotOf, Module.initializer?, slotted, eq_comm]
      | some slot =>
          by_cases inside : slot - 1 < unit.symbols.length
          · simp [Module.HasSlotOf, Module.initializer?, slotted, inside, eq_comm]
          · simp [Module.HasSlotOf, slotted, inside]

theorem initialise_eq_ok_iff {entry : GlobalEntry} {unit : Module} {next : GlobalEntry} :
    entry.initialise unit.symbols = .ok next ↔
      (entry.isInitialised = false ∧ unit.HasSlotOf entry) ∧
        next = entry.resolve (unit.initializer? entry) := by
  rw [initialise, map_eq_ok_iff]
  constructor
  · rintro ⟨symbol, found, rfl⟩
    obtain ⟨ready, rfl⟩ := pendingInitializer_eq_ok_iff.mp found
    exact ⟨ready, rfl⟩
  · rintro ⟨ready, rfl⟩
    exact ⟨_, pendingInitializer_eq_ok_iff.mpr ⟨ready, rfl⟩, rfl⟩

end GlobalEntry

namespace Machine

@[simp] theorem stack?_setStack (machine : Machine) (thread query : ThreadId) (stack : Stack) :
    (machine.setStack thread stack).stack? query =
      if query = thread then some stack else machine.stack? query :=
  lookup_replace ..

theorem resolve_eq_ok_iff {machine : Machine} {id : GlobalId} {location : UInt64} :
    machine.resolve id = .ok location ↔ machine.locations.get? id = some location := by
  rw [resolve]
  cases found : machine.locations.get? id <;> simp

end Machine

end IrMachine
