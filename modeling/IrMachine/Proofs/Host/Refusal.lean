import IrMachine.Proofs.Host.Coherent

/-!
# What a refused module costs

A module is refused by the check, or because one of its variables cannot be served. The check hands
nothing out. Whether there is room is found out only while storage is handed out, one variable after
the other, and what the earlier variables were served with is not given back: by
`Machine.reserve_eq_error` the storage of all variables before the one that is not served stays
taken.

So a failed attempt to finalise a module goes unnoticed exactly when it fails before the first
variable was served, which `Module.RefusedAtOnce` names.
-/

namespace IrMachine

namespace NativeMemory

/-- The lowest free address once requests of a size and an alignment were served in order. -/
def nextAfter : NativeMemory → List (Nat × Nat) → Nat
  | memory, [] => memory.next
  | memory, (size, align) :: rest => (memory.taken (memory.nextStart align + size)).nextAfter rest

theorem next_le_nextAfter (memory : NativeMemory) (requests : List (Nat × Nat)) :
    memory.next ≤ memory.nextAfter requests := by
  induction requests generalizing memory with
  | nil => exact Nat.le_refl _
  | cons request rest ih =>
      obtain ⟨size, align⟩ := request
      have first := memory.next_le_nextStart align
      have others := ih (memory.taken (memory.nextStart align + size))
      rw [taken_next] at others
      rw [nextAfter]
      omega

/-- Serving a request that is not empty moves the free address. -/
theorem next_lt_nextAfter (memory : NativeMemory) {request : Nat × Nat} (positive : 0 < request.1)
    (rest : List (Nat × Nat)) : memory.next < memory.nextAfter (request :: rest) := by
  obtain ⟨size, align⟩ := request
  have first := memory.next_le_nextStart align
  have others := (memory.taken (memory.nextStart align + size)).next_le_nextAfter rest
  rw [taken_next] at others
  change 0 < size at positive
  rw [nextAfter]
  omega

end NativeMemory

namespace Module

/-- The module fails before any of its variables is served: it does not pass the check, or there is
no room for its first variable. -/
def RefusedAtOnce (unit : Module) (machine : Machine) : Prop :=
  unit.Checked machine → ∀ first ∈ (unit.layouts machine.globals).head?,
    ¬ machine.memory.HasRoom [first.2]

theorem storage_pos {unit : Module} {table : GlobalTable} {request : GlobalId × Nat × Nat}
    (member : request ∈ unit.layouts table) : 0 < request.2.1 := by
  obtain ⟨id, size, align⟩ := request
  obtain ⟨entry, _, _, rfl, _⟩ := mem_layouts_iff.mp member
  exact Nat.le_max_right ..

end Module

namespace Machine

variable {machine after : Machine} {fault : Fault}

/-- Handing out storage fails at the first request without room, with all earlier ones served. -/
theorem reserve_eq_error (sound : machine.memory.Sound) {layouts : List (GlobalId × Nat × Nat)}
    (failed : (reserve layouts).on machine = (.error fault, after)) :
    ∃ served request rest, layouts = served ++ request :: rest ∧
      machine.memory.HasRoom (served.map Prod.snd) ∧
      ¬ machine.memory.HasRoom ((served ++ [request]).map Prod.snd) ∧
      after = machine.taken (machine.memory.nextAfter (served.map Prod.snd)) := by
  induction layouts generalizing machine with
  | nil => cases failed
  | cons layout rest ih =>
      obtain ⟨id, size, align⟩ := layout
      rw [reserve_cons] at failed
      rcases allocate_cases sound size align with
        ⟨serves, address, start, ran⟩ | ⟨unserved, _, _, ran⟩
      · have later := machine.memory.next_le_nextStart align
        have room := serves.2
        rw [NativeMemory.RoomFor, ← start] at room
        have sound' : (machine.taken (address.toNat + size)).memory.Sound :=
          sound.taken (by omega) room
        rw [Run.on_bind_ok ran] at failed
        rcases others : (reserve rest).on (machine.taken (address.toNat + size)) with
          ⟨fault' | places, middle⟩
        · rw [Run.on_bind_error others] at failed
          cases failed
          obtain ⟨served, request, behind, split, fits, lacking, left⟩ := ih sound' others
          rw [start] at fits lacking left
          refine ⟨(id, size, align) :: served, request, behind, ?_, ⟨serves, fits⟩, ?_, left⟩
          · rw [split, List.cons_append]
          · exact fun enough => lacking enough.2
        · rw [Run.on_bind_ok others] at failed
          cases failed
      · rw [Run.on_bind_error ran] at failed
        cases failed
        exact ⟨[], (id, size, align), rest, rfl, trivial, fun enough => unserved enough.1, rfl⟩

/-- What a failed attempt to finalise a module leaves: the machine as it was, if the check refused
the module, and otherwise a machine in which the variables that had room are served. -/
theorem finalize_eq_error {unit : Module} (owned : unit.Owned machine.globals)
    (sound : machine.memory.Sound)
    (failed : (finalize unit).on machine = (.error fault, after)) :
    (¬ unit.Checked machine ∧ after = machine) ∨
    (unit.Checked machine ∧ ∃ served request rest,
      unit.layouts machine.globals = served ++ request :: rest ∧
      machine.memory.HasRoom (served.map Prod.snd) ∧
      ¬ machine.memory.HasRoom ((served ++ [request]).map Prod.snd) ∧
      after = machine.taken (machine.memory.nextAfter (served.map Prod.snd))) := by
  cases verdict : machine.checkModule unit with
  | error refusal =>
      rw [finalize_of_refused verdict] at failed
      cases failed
      refine .inl ⟨?_, rfl⟩
      intro checked
      rw [(checkModule_eq_ok_iff owned).mpr ⟨checked, rfl⟩] at verdict
      cases verdict
  | ok answer =>
      obtain ⟨checked, rfl⟩ := (checkModule_eq_ok_iff owned).mp verdict
      rw [finalize_of_checked verdict] at failed
      rcases handed : (reserve (unit.layouts machine.globals)).on machine with
        ⟨fault' | places, middle⟩
      · rw [Run.on_bind_error handed] at failed
        cases failed
        exact .inr ⟨checked, reserve_eq_error sound handed⟩
      · -- Once storage was handed out there is nothing left that could fail.
        rcases reserve_cases sound (unit.layouts machine.globals) with
          ⟨_, places', stop, ran, served, below⟩ | ⟨_, _, _, ran, _⟩
        · obtain ⟨final, committed, _⟩ := commit_ok ⟨owned, sound, checked, served, below⟩
          rw [Run.on_bind_ok ran, committed] at failed
          cases failed
        · rw [ran] at handed
          cases handed

end Machine

namespace Host

variable {config : Config} {machine : Machine} {unit : Module}

/-- A host before a failed attempt to finalise one of its modules, and the machine afterwards. -/
structure Spared (host : Host) (index : Nat) (unit : Module) (after : Machine) : Prop where
  /-- The lowest free address stays exactly when the module is refused at once. -/
  next_iff : after.memory.next = host.machine.memory.next ↔ unit.RefusedAtOnce host.machine
  /-- Then whatever is done next comes out as if there had been no attempt. -/
  unnoticed : unit.RefusedAtOnce host.machine →
    ∀ later, (host.step (.finalize index)).run later = host.run later
  /-- Otherwise the variables in front of the first one without room keep what they were served
  with, and nothing else has changed. -/
  kept : ¬ unit.RefusedAtOnce host.machine → ∃ served request rest,
    unit.layouts host.machine.globals = served ++ request :: rest ∧ served ≠ [] ∧
    host.machine.memory.HasRoom (served.map Prod.snd) ∧
    ¬ host.machine.memory.HasRoom ((served ++ [request]).map Prod.snd) ∧
    after = host.machine.taken (host.machine.memory.nextAfter (served.map Prod.snd))

/-- A failed attempt to finalise a module takes no memory exactly when the module is refused before
any of its variables is served. -/
theorem failed_finalize_spares_memory_iff (made : Machine.new config = .ok machine)
    (events : List Event) {index : Nat}
    (found : (run { machine } events).modules[index]? = some unit) {fault : Fault} {after : Machine}
    (failed : (Machine.finalize unit).on (run { machine } events).machine = (.error fault, after)) :
    (run { machine } events).Spared index unit after := by
  have coherent := coherent_run made events
  have owned := coherent.owned unit (List.mem_of_getElem? found)
  generalize run { machine } events = host at found failed coherent owned ⊢
  have attempt : host.step (.finalize index) = { host with machine := after } := by
    rw [finalize_of_some found, Host.after, failed]
  -- A machine that is the same as before is all that a module refused at once leaves.
  have same : after = host.machine → unit.RefusedAtOnce host.machine →
      host.Spared index unit after := by
    rintro rfl atOnce
    refine ⟨⟨fun _ => atOnce, fun _ => rfl⟩, ?_, fun late => absurd atOnce late⟩
    intro _ later
    rw [attempt]
  rcases Machine.finalize_eq_error owned coherent.sound failed with
    ⟨refused, unchanged⟩ | ⟨checked, served, request, rest, layouts, fits, lacking, left⟩
  · exact same unchanged fun checked => absurd checked refused
  · cases served with
    | nil =>
        apply same left
        intro _ first head
        rw [layouts] at head
        cases head
        exact lacking
    | cons first served =>
        have late : ¬ unit.RefusedAtOnce host.machine := by
          intro atOnce
          exact atOnce checked first (by rw [layouts]; rfl) ⟨fits.1, trivial⟩
        have moved : host.machine.memory.next < after.memory.next := by
          have listed : first ∈ unit.layouts host.machine.globals := by
            rw [layouts]
            exact List.mem_cons_self
          rw [left]
          exact host.machine.memory.next_lt_nextAfter (Module.storage_pos listed) _
        refine ⟨⟨?_, fun atOnce => absurd atOnce late⟩, fun atOnce => absurd atOnce late, ?_⟩
        · intro unmoved
          exact absurd unmoved (Nat.ne_of_gt moved)
        · intro _
          exact ⟨first :: served, request, rest, layouts, nofun, fits, lacking, left⟩

/-- A module that was finalised before is refused at once, and a module whose second variable is too
large is not. -/
theorem sample_spared :
    (∀ later, (Sample.host.run [.finalize 0, .finalize 0]).run later =
      (Sample.host.run [.finalize 0]).run later) ∧
    ¬ Sample.crowd.RefusedAtOnce Sample.host.machine := by
  constructor
  · have spared :
        (run { machine := .start Sample.config } (Sample.events ++ [.finalize 0])).Spared
          0 Sample.numbers _ :=
      failed_finalize_spares_memory_iff Sample.made _ rfl rfl
    intro later
    have unnoticed := spared.unnoticed (spared.next_iff.mp rfl) later
    rw [run_append] at unnoticed
    exact unnoticed
  · have spared : Sample.host.Spared 1 Sample.crowd _ :=
      failed_finalize_spares_memory_iff Sample.made Sample.events rfl rfl
    intro atOnce
    exact absurd (spared.next_iff.mpr atOnce) (by decide)

/-- A byte is declared in front of a variable that is larger than memory. After the module was
refused for the large one, the next byte that is asked for is not the one that would have been given
without the attempt. -/
theorem refused_module_keeps_a_byte :
    let host := run { machine := .start Sample.config }
      [.newModule "crowd", .declare (some 0) (.varDecl false) (.int 8) 0 none,
        .declare (some 0) (.varDecl false) (.array (.int 8) 100) 0 none]
    (∃ unit fault, host.modules[0]? = some unit ∧
      ((Machine.finalize unit).on host.machine).1 = .error fault) ∧
    ((Machine.allocate 1 1).on host.machine).1 = .ok 0x100 ∧
    ((Machine.allocate 1 1).on (host.step (.finalize 0)).machine).1 = .ok 0x101 :=
  ⟨⟨_, _, rfl, rfl⟩, rfl, rfl⟩

end Host

end IrMachine
