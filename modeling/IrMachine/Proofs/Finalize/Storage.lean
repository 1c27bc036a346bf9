import IrMachine.Proofs.Allocation
import IrMachine.Proofs.Finalize.Check

/-!
# Handing out storage in order

Storage is handed out for one request after the other, each at the first aligned address that is
free. `NativeMemory.HasRoom` says when all requests can be served: memory has places for them
(`HasPlaces`), and no sum on the way to a place leaves the words (`SumsFit`). `Served` is what they
are served with, and `Machine.reserve_cases` connects all of it with the computation. Whether that
succeeds or not, nothing but the end of what was handed out has changed.
-/

namespace IrMachine

namespace NativeMemory

/-- Requests of a size and an alignment can be served in order. -/
def HasRoom : NativeMemory → List (Nat × Nat) → Prop
  | _, [] => True
  | memory, (size, align) :: rest =>
      memory.Serves size align ∧ HasRoom (memory.taken (memory.nextStart align + size)) rest

/-- Memory has places for requests of a size and an alignment, taken in order. -/
def HasPlaces : NativeMemory → List (Nat × Nat) → Prop
  | _, [] => True
  | memory, (size, align) :: rest =>
      memory.RoomFor size align ∧ HasPlaces (memory.taken (memory.nextStart align + size)) rest

/-- For each of the requests in its turn, the lowest free address and the alignment have a word as
their sum. -/
def SumsFit : NativeMemory → List (Nat × Nat) → Prop
  | _, [] => True
  | memory, (size, align) :: rest =>
      memory.InRange align ∧ SumsFit (memory.taken (memory.nextStart align + size)) rest

theorem hasRoom_iff {memory : NativeMemory} {requests : List (Nat × Nat)} :
    memory.HasRoom requests ↔ memory.HasPlaces requests ∧ memory.SumsFit requests := by
  induction requests generalizing memory with
  | nil => exact ⟨fun _ => ⟨trivial, trivial⟩, fun _ => trivial⟩
  | cons request rest ih =>
      obtain ⟨size, align⟩ := request
      simp only [HasRoom, HasPlaces, SumsFit, Serves, ih]
      constructor
      · rintro ⟨⟨inRange, room⟩, places, sums⟩
        exact ⟨⟨room, places⟩, inRange, sums⟩
      · rintro ⟨⟨room, places⟩, inRange, sums⟩
        exact ⟨⟨inRange, room⟩, places, sums⟩

/-- In an image that ends low enough for the alignments, no sum leaves the words. -/
theorem HasPlaces.sumsFit {memory : NativeMemory} {requests : List (Nat × Nat)}
    (places : memory.HasPlaces requests) (within : memory.next ≤ memory.base.toNat + memory.size)
    (low : ∀ request ∈ requests,
      memory.base.toNat + memory.size + max request.2 1 < UInt64.size) :
    memory.SumsFit requests := by
  induction requests generalizing memory with
  | nil => trivial
  | cons request rest ih =>
      obtain ⟨size, align⟩ := request
      obtain ⟨room, others⟩ := places
      obtain ⟨first, later⟩ := List.forall_mem_cons.mp low
      exact ⟨Nat.lt_of_le_of_lt (Nat.add_le_add_right within _) first, ih others room later⟩

end NativeMemory

/-- The places that requests were served with, one after the other between two addresses. -/
inductive Served : Nat → List (GlobalId × Nat × Nat) → List (GlobalId × UInt64) → Nat → Prop where
  | nil (next : Nat) : Served next [] [] next
  | cons {next size align stop : Nat} {id : GlobalId} {address : UInt64}
      {rest : List (GlobalId × Nat × Nat)} {places : List (GlobalId × UInt64)}
      (free : next ≤ address.toNat) (aligned : max align 1 ∣ address.toNat)
      (others : Served (address.toNat + size) rest places stop) :
      Served next ((id, size, align) :: rest) ((id, address) :: places) stop

namespace Served

variable {next stop : Nat} {layouts : List (GlobalId × Nat × Nat)}
variable {places : List (GlobalId × UInt64)}

theorem next_le_stop (served : Served next layouts places stop) : next ≤ stop := by
  induction served with
  | nil next => exact Nat.le_refl next
  | cons free _ _ ih => omega

theorem keys (served : Served next layouts places stop) :
    places.map Prod.fst = layouts.map Prod.fst := by
  induction served with
  | nil => rfl
  | cons free aligned others ih => rw [List.map_cons, List.map_cons, ih]

theorem lookup_eq_none (served : Served next layouts places stop) {id : GlobalId}
    (absent : id ∉ layouts.map Prod.fst) : places.lookup id = none := by
  induction served with
  | nil => rfl
  | cons free aligned others ih =>
      rw [List.map_cons, List.mem_cons, not_or] at absent
      have other : (id == _) = false := beq_false_of_ne absent.1
      rw [List.lookup_cons, other]
      exact ih absent.2

/-- Every request is served, inside the range and aligned as asked for. -/
theorem lookup_of_mem (served : Served next layouts places stop)
    (nodup : (layouts.map Prod.fst).Nodup) {id : GlobalId} {size align : Nat}
    (member : (id, size, align) ∈ layouts) :
    ∃ address, places.lookup id = some address ∧ next ≤ address.toNat ∧
      address.toNat + size ≤ stop ∧ max align 1 ∣ address.toNat := by
  induction served with
  | nil => cases member
  | @cons next size' align' stop id' address rest places free aligned others ih =>
      rw [List.map_cons, List.nodup_cons] at nodup
      rcases List.mem_cons.mp member with same | later
      · cases same
        exact ⟨address, by simp, free, others.next_le_stop, aligned⟩
      · have different : id ≠ id' := by
          rintro rfl
          exact nodup.1 (List.mem_map.mpr ⟨_, later, rfl⟩)
        obtain ⟨found, looked, start, finish, onGrid⟩ := ih nodup.2 later
        refine ⟨found, ?_, by omega, finish, onGrid⟩
        rw [List.lookup_cons, beq_false_of_ne different]
        exact looked

/-- Two requests are served with places that do not overlap. -/
theorem apart (served : Served next layouts places stop)
    (nodup : (layouts.map Prod.fst).Nodup) {id id' : GlobalId} {size size' align align' : Nat}
    {address address' : UInt64} (member : (id, size, align) ∈ layouts)
    (member' : (id', size', align') ∈ layouts) (different : id ≠ id')
    (looked : places.lookup id = some address) (looked' : places.lookup id' = some address') :
    Region.Apart ⟨address.toNat, size⟩ ⟨address'.toNat, size'⟩ := by
  induction served with
  | nil => cases member
  | @cons next first _ stop owner start rest places free aligned others ih =>
      rw [List.map_cons, List.nodup_cons] at nodup
      -- A place looked up behind the first one is a place of the rest.
      have behind : ∀ {other : GlobalId} {found : UInt64}, other ≠ owner →
          ((owner, start) :: places).lookup other = some found →
            places.lookup other = some found := by
        intro other found ne lookup
        rwa [List.lookup_cons, beq_false_of_ne ne] at lookup
      rcases List.mem_cons.mp member with same | later
      · cases same
        rw [List.lookup_cons_self, Option.some.injEq] at looked
        subst looked
        rcases List.mem_cons.mp member' with same' | later'
        · cases same'
          exact absurd rfl different
        · obtain ⟨found, lookup, above, _⟩ := others.lookup_of_mem nodup.2 later'
          rw [behind different.symm looked', Option.some.injEq] at lookup
          subst lookup
          exact .inl above
      · have ne : id ≠ owner := by
          rintro rfl
          exact nodup.1 (List.mem_map.mpr ⟨_, later, rfl⟩)
        rcases List.mem_cons.mp member' with same' | later'
        · cases same'
          rw [List.lookup_cons_self, Option.some.injEq] at looked'
          subst looked'
          obtain ⟨found, lookup, above, _⟩ := others.lookup_of_mem nodup.2 later
          rw [behind ne looked, Option.some.injEq] at lookup
          subst lookup
          exact .inr above
        · have ne' : id' ≠ owner := by
            rintro rfl
            exact nodup.1 (List.mem_map.mpr ⟨_, later', rfl⟩)
          exact ih nodup.2 later later' (behind ne looked) (behind ne' looked')

end Served

namespace Machine

/-- Storage is handed out for the first request, and then for the others. -/
theorem reserve_cons (machine : Machine) (id : GlobalId) (size align : Nat)
    (rest : List (GlobalId × Nat × Nat)) :
    (reserve ((id, size, align) :: rest)).on machine =
      (do
        let address ← allocate size align
        let places ← reserve rest
        return (id, address) :: places : Run (List (GlobalId × UInt64))).on machine := by
  simp only [reserve, List.mapM_cons, bind_assoc, pure_bind]

/-- Storage for all requests is handed out if they can be served, and otherwise the attempt fails.
If memory has places for all of them, what fails is a sum. -/
theorem reserve_cases {machine : Machine} (sound : machine.memory.Sound)
    (layouts : List (GlobalId × Nat × Nat)) :
    (machine.memory.HasRoom (layouts.map Prod.snd) ∧
      ∃ places stop, (reserve layouts).on machine = (.ok places, machine.taken stop) ∧
        Served machine.memory.next layouts places stop ∧
        stop ≤ machine.memory.base.toNat + machine.memory.size) ∨
    (¬ machine.memory.HasRoom (layouts.map Prod.snd) ∧
      ∃ fault stop, (reserve layouts).on machine = (.error fault, machine.taken stop) ∧
        machine.memory.next ≤ stop ∧
        stop ≤ machine.memory.base.toNat + machine.memory.size ∧
        (machine.memory.HasPlaces (layouts.map Prod.snd) → fault = .overflow)) := by
  induction layouts generalizing machine with
  | nil => exact .inl ⟨trivial, [], machine.memory.next, rfl, .nil _, sound.next_le_end⟩
  | cons layout rest ih =>
      obtain ⟨id, size, align⟩ := layout
      have first := reserve_cons machine id size align rest
      rcases allocate_cases sound size align with
        ⟨serves, address, start, ran⟩ | ⟨unserved, fault, cause, ran⟩
      · have room := serves.2
        have free : machine.memory.next ≤ address.toNat :=
          start ▸ machine.memory.next_le_nextStart align
        have aligned : max align 1 ∣ address.toNat := start ▸ Ty.dvd_roundUp ..
        rw [NativeMemory.RoomFor, ← start] at room
        have sound' : (machine.taken (address.toNat + size)).memory.Sound :=
          sound.taken (by omega) room
        rw [first, Run.on_bind_ok ran]
        rcases ih sound' with ⟨fits, places, stop, others, served, below⟩ |
          ⟨lacking, fault, stop, others, above, below, cause⟩
        · refine .inl ⟨⟨serves, start ▸ fits⟩, (id, address) :: places, stop, ?_,
            .cons free aligned served, below⟩
          rw [Run.on_bind_ok others]
          rfl
        · refine .inr ⟨fun fits => lacking (start ▸ fits.2), fault, stop, ?_, ?_, below, ?_⟩
          · rw [Run.on_bind_error others]
            rfl
          · simp only [taken_memory, NativeMemory.taken_next] at above
            omega
          · intro places
            exact cause (start ▸ places.2)
      · exact .inr ⟨fun fits => unserved fits.1, fault, machine.memory.next,
          first.trans (Run.on_bind_error ran), Nat.le_refl _, sound.next_le_end,
          fun places => cause places.1⟩

end Machine

end IrMachine
