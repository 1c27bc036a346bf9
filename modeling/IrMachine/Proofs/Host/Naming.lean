import IrMachine.Proofs.Host.Lifecycle
import Mathlib.Data.List.Basic
import Mathlib.Data.List.Induction

/-!
# Finding a global by its name

A name is stored behind a mark, the mark in front of a query is taken off, and the comparison leaves
out the first character of what is stored. `Module.asked` is the name that a query asks for, and
`Host.isNamed_iff` says that the comparison comes to what it should: a global is found under the
name that it took (`Host.TookName`), and no other name was ever stored for it (`Host.named_iff`).
Since a module lists its globals in the order of their declaration (`Host.ordered_run`), the first
one found is the first one declared.

A query that starts with the mark asks for what follows it, always. So a name that itself starts
with the mark is only found with another mark in front, and for all other names the mark makes no
difference.
-/

namespace IrMachine

/-- In a list that is sorted by a key, the first element with a property is the least one. -/
theorem find?_eq_some_iff_least {α : Type} {key : α → Nat} {items : List α} {holds : α → Bool}
    (sorted : items.Pairwise fun first second => key first < key second) {item : α} :
    items.find? holds = some item ↔
      item ∈ items ∧ holds item = true ∧
        ∀ other ∈ items, holds other = true → key item ≤ key other := by
  rw [List.find?_eq_some_iff_append]
  constructor
  · rintro ⟨here, before, after, rfl, none⟩
    obtain ⟨_, onward, _⟩ := List.pairwise_append.mp sorted
    refine ⟨by simp, here, ?_⟩
    intro other member found
    obtain early | late := List.mem_append.mp member
    · have missed := none other early
      rw [found] at missed
      cases missed
    · obtain rfl | later := List.mem_cons.mp late
      · exact Nat.le_refl _
      · exact Nat.le_of_lt (List.rel_of_pairwise_cons onward later)
  · rintro ⟨member, here, least⟩
    obtain ⟨before, after, rfl⟩ := List.append_of_mem member
    obtain ⟨_, _, across⟩ := List.pairwise_append.mp sorted
    refine ⟨here, before, after, rfl, ?_⟩
    intro other early
    have below := across other early item List.mem_cons_self
    have missed : holds other ≠ true := by
      intro found
      have above := least other (List.mem_append_left _ early) found
      omega
    simpa using missed

/-- Whether what is stored for a global is a name behind its mark. -/
def GlobalTable.isNamed (table : GlobalTable) (name : List Char) (id : GlobalId) : Bool :=
  match (table.get? id).bind GlobalEntry.named with
  | some text => text.toList.drop 1 == name
  | none => false

namespace Module

/-- The name that a query asks for: what follows the mark, if the query starts with one. -/
def asked (query : String) : List Char :=
  match query.toList with
  | '@' :: rest => rest
  | chars => chars

theorem lookup?_eq_find? (unit : Module) (table : GlobalTable) (query : String) :
    unit.lookup? table query = unit.globals.find? (table.isNamed (asked query)) := rfl

theorem asked_mark (name : String) : asked ("@" ++ name) = name.toList := by
  simp [asked]

theorem asked_of_unmarked {name : String} (unmarked : ∀ rest, name ≠ "@" ++ rest) :
    asked name = name.toList := by
  unfold asked
  split
  · rename_i rest marked
    refine absurd (String.toList_inj.mp ?_) (unmarked (String.ofList rest))
    simp [marked]
  · rfl

/-- What a query asks for is the query, with its mark or without. -/
theorem eq_of_asked {query name : String} (same : asked query = name.toList) :
    query = name ∨ query = "@" ++ name := by
  by_cases marked : ∃ rest, query = "@" ++ rest
  · obtain ⟨rest, rfl⟩ := marked
    rw [asked_mark] at same
    exact .inr (congrArg ("@" ++ ·) (String.toList_inj.mp same))
  · rw [asked_of_unmarked (not_exists.mp marked)] at same
    exact .inl (String.toList_inj.mp same)

end Module

/-- Only naming offers a name. -/
theorem Event.naming_eq_some_iff {event : Event} {id : GlobalId} {name : String} :
    event.naming id = some name ↔ event = .setName id name := by
  cases event with
  | setName target offered =>
      rw [Event.naming]
      split
      · rename_i same
        simp [same]
      · rename_i other
        simp [other]
  | _ => simp [Event.naming]

namespace Host

variable {config : Config} {machine : Machine} {events : List Event} {id : GlobalId} {host : Host}

/-- In the course of a history, a global that was there was given a name and took it. -/
def TookName (machine : Machine) (events : List Event) (id : GlobalId) (name : String) : Prop :=
  ∃ earlier later, events = earlier ++ Event.setName id name :: later ∧
    ((run { machine } earlier).machine.globals.get? id).isSome ∧
    ((Machine.setName id name).on (run { machine } earlier).machine).1 = .ok ()

/-- What happens last gives a name, or the name was given before. -/
theorem tookName_concat (event : Event) (name : String) :
    TookName machine (events ++ [event]) id name ↔
      TookName machine events id name ∨
        event = .setName id name ∧ ((run { machine } events).machine.globals.get? id).isSome ∧
          ((Machine.setName id name).on (run { machine } events).machine).1 = .ok () := by
  constructor
  · rintro ⟨earlier, later, split, accepted⟩
    obtain rfl | ⟨front, last, rfl⟩ := later.eq_nil_or_concat'
    · obtain ⟨rfl, same⟩ := List.append_inj' split rfl
      cases same
      exact .inr ⟨rfl, accepted⟩
    · rw [← List.cons_append, ← List.append_assoc] at split
      obtain ⟨rfl, _⟩ := List.append_inj' split rfl
      exact .inl ⟨earlier, front, rfl, accepted⟩
  · rintro (⟨earlier, later, rfl, accepted⟩ | ⟨rfl, accepted⟩)
    · exact ⟨earlier, later ++ [event], by simp, accepted⟩
    · exact ⟨events, [], rfl, accepted⟩

theorem known_of_isSome (coherent : host.Coherent config)
    (alive : (host.machine.globals.get? id).isSome) : id.index < host.declared.length := by
  obtain ⟨entry, found⟩ := Option.isSome_iff_exists.mp alive
  exact (List.getElem?_eq_some_iff.mp (coherent.declared id entry found)).1

theorem TookName.known (made : Machine.new config = .ok machine) {name : String}
    (took : TookName machine events id name) :
    id.index < (run { machine } events).declared.length := by
  obtain ⟨earlier, later, rfl, alive, _⟩ := took
  rw [run_append]
  exact Nat.lt_of_lt_of_le (known_of_isSome (coherent_run made earlier) alive)
    (declared_le_run _ _)

/-- Only declarations add to what was declared. -/
theorem declared_step_of_other (host : Host) {event : Event}
    (other : ∀ unit kind ty alignment slot, event ≠ .declare unit kind ty alignment slot) :
    (host.step event).declared = host.declared := by
  cases event with
  | declare unit kind ty alignment slot => exact absurd rfl (other unit kind ty alignment slot)
  | allocate size align =>
      change (host.allocate size align).declared = host.declared
      unfold Host.allocate
      split <;> rfl
  | finalize index =>
      change (host.finalize index).declared = host.declared
      unfold Host.finalize
      split <;> rfl
  | _ => rfl

/-- A global that is there after an event and was unknown before it is new, and has no name. -/
theorem named_of_unknown (coherent : host.Coherent config) {event : Event}
    (unknown : ¬ id.index < host.declared.length) {entry : GlobalEntry}
    (alive : (host.step event).machine.globals.get? id = some entry) :
    entry.named = none ∧ ∀ target name, event ≠ .setName target name := by
  have present := known_of_isSome (coherent.step event) (Option.isSome_of_eq_some alive)
  by_cases declares : ∃ unit kind ty alignment slot, event = .declare unit kind ty alignment slot
  · obtain ⟨unit, kind, ty, alignment, slot, rfl⟩ := declares
    refine ⟨?_, nofun⟩
    have looked := host.machine.globals.get?_declare (.new kind ty alignment slot) id
    change (host.machine.globals.declare (.new kind ty alignment slot)).2.get? id = _ at alive
    rw [alive] at looked
    split at looked
    · cases looked
      rfl
    · exact absurd (known_of_isSome coherent (Option.isSome_of_eq_some looked.symm)) unknown
  · rw [declared_step_of_other host (by simpa using declares)] at present
    exact absurd present unknown

/-- An entry that has a name refuses every other, and one without a name takes the one it is
given. -/
theorem setName_accepted_iff {entry : GlobalEntry}
    (alive : host.machine.globals.get? id = some entry) (name : String) :
    ((Machine.setName id name).on host.machine).1 = .ok () ↔ entry.named = none := by
  rw [Machine.setName, Machine.updateGlobal_on alive]
  cases found : entry.named with
  | none => simp [GlobalEntry.setName_of_unnamed found]
  | some first => simp [GlobalEntry.setName_of_named found]

/-- What is stored for a global is the name that it took, behind the mark. -/
theorem named_iff (made : Machine.new config = .ok machine) (events : List Event)
    {entry : GlobalEntry} (alive : (run { machine } events).machine.globals.get? id = some entry)
    (stored : String) :
    entry.named = some stored ↔ ∃ name, stored = "@" ++ name ∧ TookName machine events id name := by
  induction events using List.reverseRecOn generalizing entry stored with
  | nil =>
      have unknown := (coherent_start made).declared id entry alive
      cases unknown
  | append_singleton events event ih =>
      have coherent := coherent_run made events
      rw [run_append] at alive
      change ((run { machine } events).step event).machine.globals.get? id = _ at alive
      simp only [tookName_concat]
      by_cases known : id.index < (run { machine } events).declared.length
      · obtain ⟨before, existed, evolves⟩ := evolves_step coherent event known alive
        have present := Option.isSome_of_eq_some existed
        simp only [present, setName_accepted_iff existed, true_and]
        rw [evolves.named]
        cases found : before.named with
        | some first =>
            have earlier := ih existed stored
            simpa [found] using earlier
        | none =>
            have never : ∀ name, ¬ TookName machine events id name := by
              intro name took
              have stored := (ih existed ("@" ++ name)).mpr ⟨name, rfl, took⟩
              rw [found] at stored
              cases stored
            simp only [never, false_or, Option.none_or, Option.map_eq_some_iff,
              Event.naming_eq_some_iff, and_true]
            constructor
            · rintro ⟨name, given, rfl⟩
              exact ⟨name, rfl, given⟩
            · rintro ⟨name, rfl, given⟩
              exact ⟨name, given, rfl⟩
      · obtain ⟨unnamed, silent⟩ := named_of_unknown coherent known alive
        have never : ∀ name, ¬ TookName machine events id name := by
          intro name took
          exact known (took.known made)
        simp [unnamed, never, silent]

/-- Every module lists its globals in the order of their declaration. -/
def Ordered (host : Host) : Prop :=
  ∀ unit ∈ host.modules, unit.globals.Pairwise fun first second => first.index < second.index

theorem Ordered.step (ordered : host.Ordered) (coherent : host.Coherent config) (event : Event) :
    (host.step event).Ordered := by
  cases event with
  | newModule name =>
      intro unit member
      obtain old | new := List.mem_append.mp member
      · exact ordered unit old
      · rw [List.mem_singleton.mp new]
        exact .nil
  | dropModule index => exact fun unit member => ordered unit (List.mem_of_mem_eraseIdx member)
  | addSymbol index symbol =>
      intro unit member
      obtain same | ⟨old, present, rfl⟩ := mem_modify member
      · exact ordered unit same
      · exact ordered old present
  | declare place kind ty alignment slot =>
      cases place with
      | none => exact ordered
      | some index =>
          intro unit member
          obtain same | ⟨old, present, rfl⟩ := mem_modify member
          · exact ordered unit same
          · refine List.pairwise_append.mpr ⟨ordered old present, List.pairwise_singleton .., ?_⟩
            intro first listed second new
            -- The new position is the number of all entries so far.
            rw [List.mem_singleton.mp new]
            change first.index < host.machine.globals.entries.size
            rw [← coherent.count]
            exact known_of_isSome coherent ((coherent.owned old present).alive first listed)
  | allocate size align =>
      change (host.allocate size align).Ordered
      unfold Host.allocate
      split <;> exact ordered
  | finalize index =>
      change (host.finalize index).Ordered
      unfold Host.finalize
      split <;> exact ordered
  | _ => exact ordered

theorem ordered_run (made : Machine.new config = .ok machine) (events : List Event) :
    (run { machine } events).Ordered := by
  have both : (run { machine } events).Coherent config ∧ (run { machine } events).Ordered := by
    refine run_invariant (fun host => host.Coherent config ∧ host.Ordered) (fun _ => True)
      ⟨coherent_start made, nofun⟩ ?_ fun _ _ => trivial
    rintro host event _ ⟨coherent, ordered⟩
    exact ⟨coherent.step event, ordered.step coherent event⟩
  exact both.2

/-- A global matches the name that it took, and nothing else. -/
theorem isNamed_iff (made : Machine.new config = .ok machine) (events : List Event)
    (alive : ((run { machine } events).machine.globals.get? id).isSome) (name : String) :
    (run { machine } events).machine.globals.isNamed name.toList id = true ↔
      TookName machine events id name := by
  obtain ⟨entry, found⟩ := Option.isSome_iff_exists.mp alive
  have stored := named_iff made events found
  have behind : ∀ given : String, ("@" ++ given).toList.drop 1 = given.toList := by simp
  rw [GlobalTable.isNamed, found, Option.bind_some]
  constructor
  · intro matched
    cases named : entry.named with
    | none =>
        rw [named] at matched
        cases matched
    | some text =>
        obtain ⟨given, rfl, took⟩ := (stored text).mp named
        rw [named] at matched
        simp only [behind, beq_iff_eq, String.toList_inj] at matched
        exact matched ▸ took
  · intro took
    rw [(stored ("@" ++ name)).mpr ⟨name, rfl, took⟩]
    simp only [behind, beq_self_eq_true]

/-- A global of a module took a name, and was declared before all others that did. -/
structure FirstNamed (machine : Machine) (events : List Event) (unit : Module) (name : String)
    (id : GlobalId) : Prop where
  listed : id ∈ unit.globals
  took : TookName machine events id name
  first : ∀ other ∈ unit.globals, TookName machine events other name → id.index ≤ other.index

section Lookup

variable {unit : Module} (made : Machine.new config = .ok machine) (events : List Event)
  (member : unit ∈ (run { machine } events).modules)
include made member

theorem lookup?_eq_some_iff {query name : String} (asks : Module.asked query = name.toList) :
    unit.lookup? (run { machine } events).machine.globals query = some id ↔
      FirstNamed machine events unit name id := by
  have alive := ((coherent_run made events).owned unit member).alive
  rw [Module.lookup?_eq_find?, asks, find?_eq_some_iff_least (ordered_run made events unit member)]
  constructor
  · rintro ⟨listed, here, least⟩
    refine ⟨listed, (isNamed_iff made events (alive id listed) name).mp here, ?_⟩
    intro other present took
    exact least other present ((isNamed_iff made events (alive other present) name).mpr took)
  · rintro ⟨listed, took, first⟩
    refine ⟨listed, (isNamed_iff made events (alive id listed) name).mpr took, ?_⟩
    intro other present matched
    exact first other present ((isNamed_iff made events (alive other present) name).mp matched)

theorem lookup?_eq_none_iff {query name : String} (asks : Module.asked query = name.toList) :
    unit.lookup? (run { machine } events).machine.globals query = none ↔
      ∀ id ∈ unit.globals, ¬ TookName machine events id name := by
  have alive := ((coherent_run made events).owned unit member).alive
  rw [Module.lookup?_eq_find?, asks, List.find?_eq_none]
  constructor
  · intro none id listed took
    exact none id listed ((isNamed_iff made events (alive id listed) name).mpr took)
  · intro none id listed matched
    exact none id listed ((isNamed_iff made events (alive id listed) name).mp matched)

end Lookup

/-- A global is found by its name. After every history, a query with the mark in front of a name
finds the first declared global of the module that took the name, and nothing if there is none. If
the name does not start with the mark itself, the mark may be left out. What is found is never a
global without a name: it took the name that the query is, or that follows the mark. -/
theorem lookup_finds_first_named {unit : Module} (made : Machine.new config = .ok machine)
    (events : List Event) (member : unit ∈ (run { machine } events).modules) (name : String) :
    (∀ id, unit.lookup? (run { machine } events).machine.globals ("@" ++ name) = some id ↔
      FirstNamed machine events unit name id) ∧
    (unit.lookup? (run { machine } events).machine.globals ("@" ++ name) = none ↔
      ∀ id ∈ unit.globals, ¬ TookName machine events id name) ∧
    ((∀ rest, name ≠ "@" ++ rest) →
      unit.lookup? (run { machine } events).machine.globals name =
        unit.lookup? (run { machine } events).machine.globals ("@" ++ name)) ∧
    ∀ query id, unit.lookup? (run { machine } events).machine.globals query = some id →
      ∃ given, TookName machine events id given ∧ (query = given ∨ query = "@" ++ given) := by
  have marked := Module.asked_mark name
  refine ⟨fun id => lookup?_eq_some_iff made events member marked,
    lookup?_eq_none_iff made events member marked, ?_, ?_⟩
  · intro unmarked
    rw [Module.lookup?_eq_find?, Module.lookup?_eq_find?, marked,
      Module.asked_of_unmarked unmarked]
  · intro query id found
    have asks : Module.asked query = (String.ofList (Module.asked query)).toList := by simp
    have first := (lookup?_eq_some_iff made events member asks).mp found
    exact ⟨_, first.took, Module.eq_of_asked asks⟩

namespace Sample

/-- Of three variables, one is never given a name. One takes a name that starts with the mark and
refuses another, which the last one takes. -/
def namings : List Event :=
  [.newModule "names", .declare (some 0) (.varDecl false) (.int 8) 0 none,
    .declare (some 0) (.varDecl false) (.int 8) 0 none,
    .declare (some 0) (.varDecl false) (.int 8) 0 none, .setName ⟨1⟩ "@x", .setName ⟨1⟩ "x",
    .setName ⟨2⟩ "x"]

def names : Module where
  name := "names"
  globals := [⟨0⟩, ⟨1⟩, ⟨2⟩]

def namedTable : GlobalTable := (run { machine := .start Sample.config } namings).machine.globals

theorem names_mem : names ∈ (run { machine := .start Sample.config } namings).modules :=
  List.mem_of_getElem? (rfl : _[0]? = _)

end Sample

/-- The last variable is the first that took the name `x`, which finds it with the mark and without,
and nobody took the placeholder for a name. -/
theorem sample_found :
    FirstNamed (.start Sample.config) Sample.namings Sample.names "x" ⟨2⟩ ∧
      Sample.names.lookup? Sample.namedTable ("@" ++ "x") = some ⟨2⟩ ∧
      Sample.names.lookup? Sample.namedTable "x" = some ⟨2⟩ ∧
      Sample.names.lookup? Sample.namedTable ("@" ++ "<anon>") = none ∧
      ∀ id ∈ Sample.names.globals,
        ¬ TookName (.start Sample.config) Sample.namings id "<anon>" := by
  obtain ⟨named, _, unmarked, _⟩ :=
    lookup_finds_first_named Sample.made Sample.namings Sample.names_mem "x"
  obtain ⟨_, missing, _, _⟩ :=
    lookup_finds_first_named Sample.made Sample.namings Sample.names_mem "<anon>"
  have found : Sample.names.lookup? Sample.namedTable ("@" ++ "x") = some ⟨2⟩ := by decide
  have absent : Sample.names.lookup? Sample.namedTable ("@" ++ "<anon>") = none := by decide
  have bare : ∀ rest, "x" ≠ "@" ++ rest := by
    intro rest same
    have chars := congrArg String.toList same
    simp at chars
  exact ⟨(named ⟨2⟩).mp found, found, (unmarked bare).trans found, absent, missing.mp absent⟩

/-- The first variable that took the name `@x` is not found under it, since the query asks for `x`;
it takes another mark to find it. -/
theorem mark_is_taken_off :
    FirstNamed (.start Sample.config) Sample.namings Sample.names "@x" ⟨1⟩ ∧
      Sample.names.lookup? Sample.namedTable "@x" = some ⟨2⟩ ∧
      Sample.names.lookup? Sample.namedTable "@@x" = some ⟨1⟩ := by
  have found : Sample.names.lookup? Sample.namedTable "@@x" = some ⟨1⟩ := by decide
  have asks : Module.asked "@@x" = "@x".toList := by decide
  refine ⟨?_, by decide, found⟩
  exact (lookup?_eq_some_iff Sample.made Sample.namings Sample.names_mem asks).mp found

end Host

end IrMachine
