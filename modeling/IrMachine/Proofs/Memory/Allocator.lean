import IrMachine.Proofs.Allocation
import Mathlib.Order.Bounds.Basic

/-!
# The allocator is exact, as far as its sums are words

The only sum of a request that can leave the words is the first one, of the lowest free address and
the alignment: the end of a place is added up only when it lies inside the image. One is taken off
the first sum again, so there is one alignment for which the place itself could be computed and the
sum is still not a word. Such a request is abandoned, and nothing has changed.

`Machine.afterRequests` is a history of requests, of which each is granted, refused or abandoned.
None of them moves the lowest free address out of the image, and after all of them the next request
is served exactly: `Machine.AllocatesExactly`.
-/

namespace IrMachine

namespace Ty

/-- Rounding up gives the least multiple that is not below. -/
theorem isLeast_roundUp (value : Nat) {align : Nat} (positive : 0 < align) :
    IsLeast {multiple | align ∣ multiple ∧ value ≤ multiple} (roundUp value align) := by
  refine ⟨⟨dvd_roundUp value align, le_roundUp value positive⟩, ?_⟩
  rintro multiple ⟨⟨count, rfl⟩, above⟩
  have fewer : (value + (align - 1)) / align < count + 1 := by
    apply Nat.div_lt_of_lt_mul
    rw [Nat.mul_add, Nat.mul_one]
    omega
  rw [roundUp, Nat.mul_comm]
  exact Nat.mul_le_mul_left align (Nat.le_of_lt_succ fewer)

end Ty

/-- What is asked for: a number of bytes, and of what their address is to be a multiple. -/
structure Request where
  size : Nat
  align : Nat
deriving DecidableEq

namespace Request

/-- The distance of the places that suit a request. An alignment of zero is one of one. -/
def spacing (request : Request) : Nat := max request.align 1

def StartsAt (request : Request) (next start : Nat) : Prop :=
  IsLeast {address | request.spacing ∣ address ∧ next ≤ address} start

/-- The request has a place at `start`, the first one that suits it, which ends inside the image;
and the sum on the way to it is a word. -/
structure FitsAt (request : Request) (memory : NativeMemory) (start : Nat) : Prop where
  sum : memory.next + request.spacing < UInt64.size
  first : request.StartsAt memory.next start
  room : start + request.size ≤ memory.base.toNat + memory.size

theorem startsAt_iff {request : Request} {memory : NativeMemory} {start : Nat} :
    request.StartsAt memory.next start ↔ start = memory.nextStart request.align := by
  have least : request.StartsAt memory.next (memory.nextStart request.align) :=
    Ty.isLeast_roundUp memory.next (Nat.le_max_right ..)
  constructor
  · intro first
    exact first.unique least
  · rintro rfl
    exact least

end Request

namespace Machine

variable {machine : Machine} {request : Request}

def serve (machine : Machine) (request : Request) : Except Fault UInt64 × Machine :=
  (allocate request.size request.align).on machine

/-- The place at `start` is handed out, and what is free begins at its end. -/
def HandsOut (machine : Machine) (request : Request) (start : Nat) : Prop :=
  ∃ address : UInt64, address.toNat = start ∧
    machine.serve request = (.ok address, machine.taken (start + request.size))

/-- The place at `start` is refused, and nothing has changed. -/
def Refuses (machine : Machine) (request : Request) (start : Nat) : Prop :=
  ∃ address : UInt64, address.toNat = start ∧
    machine.serve request = (.error (.memory address request.size), machine)

/-- What can become of a request: it is abandoned, or the first place that suits it is handed out,
or that place ends outside the image. -/
theorem serve_cases (sound : machine.memory.Sound) (request : Request) :
    (¬ machine.memory.InRange request.align ∧
      machine.serve request = (.error .overflow, machine)) ∨
    (machine.memory.Serves request.size request.align ∧
      machine.HandsOut request (machine.memory.nextStart request.align)) ∨
    (machine.memory.InRange request.align ∧
      ¬ machine.memory.RoomFor request.size request.align ∧
      machine.Refuses request (machine.memory.nextStart request.align)) := by
  simp only [HandsOut, Refuses, serve, allocate_on]
  rcases NativeMemory.allocate_cases sound request.size request.align with
    ⟨outside, answer⟩ | ⟨serves, address, start, answer⟩ | ⟨inRange, full, address, start, answer⟩
  · exact .inl ⟨outside, by rw [answer]⟩
  · exact .inr (.inl ⟨serves, address, start, by rw [answer, start]; rfl⟩)
  · exact .inr (.inr ⟨inRange, full, address, start, by rw [answer]⟩)

theorem handsOut_of_fitsAt (sound : machine.memory.Sound) {start : Nat}
    (fits : request.FitsAt machine.memory start) : machine.HandsOut request start := by
  obtain rfl := Request.startsAt_iff.mp fits.first
  obtain ⟨outside, _⟩ | ⟨_, granted⟩ | ⟨_, full, _⟩ := serve_cases sound request
  · exact absurd fits.sum outside
  · exact granted
  · exact absurd fits.room full

theorem refuses_of_full (sound : machine.memory.Sound)
    (sum : machine.memory.next + request.spacing < UInt64.size) {start : Nat}
    (first : request.StartsAt machine.memory.next start)
    (full : machine.memory.base.toNat + machine.memory.size < start + request.size) :
    machine.Refuses request start := by
  obtain rfl := Request.startsAt_iff.mp first
  obtain ⟨outside, _⟩ | ⟨⟨_, room⟩, _⟩ | ⟨_, _, refused⟩ := serve_cases sound request
  · exact absurd sum outside
  · exact absurd room (Nat.not_le.mpr full)
  · exact refused

theorem serve_eq_overflow_iff (sound : machine.memory.Sound) :
    machine.serve request = (.error .overflow, machine) ↔
      UInt64.size ≤ machine.memory.next + request.spacing := by
  obtain ⟨outside, abandoned⟩ | ⟨⟨inRange, _⟩, _, _, granted⟩ | ⟨inRange, _, _, _, refused⟩ :=
    serve_cases sound request
  · exact iff_of_true abandoned (Nat.le_of_not_lt outside)
  · rw [granted]
    exact iff_of_false nofun (Nat.not_le.mpr inRange)
  · rw [refused]
    exact iff_of_false nofun (Nat.not_le.mpr inRange)

/-- A request that fails, for whatever reason, leaves the machine as it was. -/
theorem eq_of_serve_eq_error (sound : machine.memory.Sound) {fault : Fault} {after : Machine}
    (failed : machine.serve request = (.error fault, after)) : after = machine := by
  obtain ⟨_, served⟩ | ⟨_, _, _, served⟩ | ⟨_, _, _, _, served⟩ := serve_cases sound request
  · rw [served] at failed
    cases failed
    rfl
  · rw [served] at failed
    cases failed
  · rw [served] at failed
    cases failed
    rfl

/-- A request moves the lowest free address up inside the image, or nothing changes. -/
theorem serve_taken (sound : machine.memory.Sound) (request : Request) :
    ∃ next, (machine.serve request).2 = machine.taken next ∧ machine.memory.next ≤ next ∧
      next ≤ machine.memory.base.toNat + machine.memory.size := by
  have later := machine.memory.next_le_nextStart request.align
  have same : ∃ next, machine = machine.taken next ∧ machine.memory.next ≤ next ∧
      next ≤ machine.memory.base.toNat + machine.memory.size :=
    ⟨machine.memory.next, rfl, Nat.le_refl _, sound.next_le_end⟩
  obtain ⟨_, served⟩ | ⟨⟨_, room⟩, _, _, served⟩ | ⟨_, _, _, _, served⟩ := serve_cases sound request
  · rw [served]
    exact same
  · rw [served]
    exact ⟨_, rfl, by omega, room⟩
  · rw [served]
    exact same

/-- The machine after requests, whatever became of each. -/
def afterRequests (machine : Machine) (requests : List Request) : Machine :=
  requests.foldl (fun machine request => (machine.serve request).2) machine

/-- Requests only ever move the lowest free address up, and never out of the image. -/
theorem afterRequests_taken (sound : machine.memory.Sound) (requests : List Request) :
    ∃ next, machine.afterRequests requests = machine.taken next ∧ machine.memory.next ≤ next ∧
      next ≤ machine.memory.base.toNat + machine.memory.size := by
  induction requests generalizing machine with
  | nil => exact ⟨machine.memory.next, rfl, Nat.le_refl _, sound.next_le_end⟩
  | cons request rest ih =>
      obtain ⟨next, moved, above, below⟩ := serve_taken sound request
      have sound' : (machine.taken next).memory.Sound := sound.taken above below
      obtain ⟨last, others, later, inside⟩ := ih sound'
      refine ⟨last, ?_, Nat.le_trans above later, inside⟩
      rw [afterRequests, List.foldl_cons, moved]
      exact others

/-- A request is served exactly, unless it is abandoned at its first sum. -/
structure AllocatesExactly (machine : Machine) (request : Request) : Prop where
  /-- It is abandoned exactly when the lowest free address and the alignment have no word as their
  sum, though one less is all that finding the place needs. -/
  overflows_iff : machine.serve request = (.error .overflow, machine) ↔
    UInt64.size ≤ machine.memory.next + request.spacing
  granted : ∀ start, request.FitsAt machine.memory start → machine.HandsOut request start
  refused : machine.memory.next + request.spacing < UInt64.size → ∀ start,
    request.StartsAt machine.memory.next start →
    machine.memory.base.toNat + machine.memory.size < start + request.size →
    machine.Refuses request start
  /-- A failure costs nothing: what fitted before it is handed out after it. -/
  spared : ∀ fault after, machine.serve request = (.error fault, after) →
    ∀ (other : Request) (start : Nat), other.FitsAt machine.memory start →
      after.HandsOut other start

/-- After any history of requests the lowest free address is one of the image or its end, and the
next request is served exactly, unless the lowest free address and the alignment have no word as
their sum. -/
theorem allocations_exact_unless_sum_overflows (sound : machine.memory.Sound)
    (requests : List Request) :
    (machine.memory.base.toNat ≤ (machine.afterRequests requests).memory.next ∧
      (machine.afterRequests requests).memory.next ≤
        machine.memory.base.toNat + machine.memory.size) ∧
    ∀ request, (machine.afterRequests requests).AllocatesExactly request := by
  obtain ⟨next, reached, above, below⟩ := afterRequests_taken sound requests
  have sound' : (machine.taken next).memory.Sound := sound.taken above below
  rw [reached]
  refine ⟨⟨sound'.base_le_next, below⟩, fun request => ?_⟩
  constructor
  · exact serve_eq_overflow_iff sound'
  · intro start fits
    exact handsOut_of_fitsAt sound' fits
  · intro sum start first full
    exact refuses_of_full sound' sum first full
  · intro fault after failed other start fits
    obtain rfl := eq_of_serve_eq_error sound' failed
    exact handsOut_of_fitsAt sound' fits

def odd : Machine := start { memoryBase := 0x1001, memorySize := 64, stackSize := 16 }

/-- Two requests are granted, a third is too large and a fourth is abandoned, and a smaller one is
granted after them. -/
theorem sample_exhausted :
    let requests : List Request := [⟨3, 1⟩, ⟨8, 8⟩, ⟨1024, 8⟩]
    odd.afterRequests requests = odd.taken 0x1010 ∧
    ∃ after,
      (odd.afterRequests requests).serve ⟨1, 0xfffffffffffffff0⟩ = (.error .overflow, after) ∧
      after.HandsOut ⟨40, 8⟩ 0x1010 := by
  have sound : odd.memory.Sound := ⟨by decide, by decide, by decide⟩
  have served := (allocations_exact_unless_sum_overflows sound [⟨3, 1⟩, ⟨8, 8⟩, ⟨1024, 8⟩]).2
    ⟨1, 0xfffffffffffffff0⟩
  have abandoned := served.overflows_iff.mpr (by decide)
  refine ⟨rfl, _, abandoned, served.spared _ _ abandoned ⟨40, 8⟩ 0x1010 ?_⟩
  exact ⟨by decide, Request.startsAt_iff.mpr rfl, by decide⟩

/-- What is free begins sixteen bytes below the end of the address space. That is a multiple of
sixteen, and there is room for the eight bytes that are asked for, but the request is abandoned. -/
theorem aligned_place_is_not_handed_out :
    let machine := start { memoryBase := 0xfffffffffffffff0, memorySize := 8, stackSize := 8 }
    let request : Request := ⟨8, 16⟩
    new machine.config = .ok machine ∧ machine.memory.Sound ∧
    machine.memory.next + request.spacing - 1 < UInt64.size ∧
    request.StartsAt machine.memory.next machine.memory.next ∧
    machine.memory.next + request.size ≤ machine.memory.base.toNat + machine.memory.size ∧
    machine.serve request = (.error .overflow, machine) :=
  ⟨rfl, ⟨by decide, by decide, by decide⟩, by decide, Request.startsAt_iff.mpr rfl, by decide, rfl⟩

end Machine

end IrMachine
