import IrMachine.Global.Finalize
import IrMachine.Proofs.Foreign.Crossing

/-!
# Hosts and what they can do

A host builds modules and drives a machine. `Event` lists everything that can happen to the two, and
`Host.run` is a whole history of such events, in any order and of any length, failed ones included.
Results about all states of a machine are results about all hosts that `Host.run` can give.

A host keeps two records that the machine does without: the declarations as they were made, also of
globals that are gone, and the storage it was given.
-/

namespace IrMachine

/-- The entry as it was declared, before it had a name and before it was resolved. -/
def GlobalEntry.declaration (entry : GlobalEntry) : GlobalEntry :=
  { entry with named := none, resolution := .pending }

/-- A machine, the modules that are being built for it, and what has happened to it. -/
structure Host where
  machine : Machine
  modules : List Module := []
  /-- All declarations ever made, by position. -/
  declared : List GlobalEntry := []
  /-- All storage that was handed out to the host itself. -/
  allocations : List Region := []

/-- What can happen to a host and its machine. Modules are named by their position. -/
inductive Event where
  | newModule (name : String)
  | dropModule (unit : Nat)
  | addSymbol (unit : Nat) (symbol : Symbol)
  /-- A global is declared, in a module or in none. -/
  | declare (unit : Option Nat) (kind : GlobalKind) (ty : Ty) (alignment : Nat)
      (slot : Option Nat)
  | setName (id : GlobalId) (name : String)
  | initialise (id : GlobalId) (symbols : List Symbol)
  /-- Globals disappear, unless they are among those still held or in a module. -/
  | forget (held : List GlobalId)
  | allocate (size align : Nat)
  | write (address : UInt64) (bytes : Bytes)
  | stackFor (thread : ThreadId)
  | setStackPointer (thread : ThreadId) (pointer : UInt64)
  | call (site : CallSite) (depth : Nat) (thread : ThreadId) (target : Value) (args : List Value)
      (pointer : UInt64)
  /-- Buffers and foreign objects change in any way. -/
  | outside (buffers : Array Buffer) (objects : ObjectTable)
  | bind (id : GlobalId) (location : UInt64)
  | finalize (unit : Nat)

/-- Whether the host itself places a global. -/
def Event.isBind : Event → Bool
  | bind .. => true
  | _ => false

namespace Host

/-- The host after a computation on its machine, whether that succeeded or not. -/
def after {α : Type} (host : Host) (run : Run α) : Host :=
  { host with machine := (run.on host.machine).2 }

def declare (host : Host) (unit : Option Nat) (entry : GlobalEntry) : Host :=
  let (id, machine) := host.machine.declare entry
  { host with
    machine
    declared := host.declared ++ [entry]
    modules := unit.elim host.modules fun unit => host.modules.modify unit (·.addGlobal id) }

def allocate (host : Host) (size align : Nat) : Host :=
  match (Machine.allocate size align).on host.machine with
  | (.ok address, machine) =>
      { host with machine, allocations := host.allocations ++ [⟨address.toNat, size⟩] }
  | (.error _, machine) => { host with machine }

/-- Finalises a module, if there is one at the position. -/
def finalize (host : Host) (unit : Nat) : Host :=
  match host.modules[unit]? with
  | some unit => host.after (Machine.finalize unit)
  | none => host

/-- What an event makes of a host. -/
def step (host : Host) : Event → Host
  | .newModule name => { host with modules := host.modules ++ [{ name }] }
  | .dropModule unit => { host with modules := host.modules.eraseIdx unit }
  | .addSymbol unit symbol =>
      { host with modules := host.modules.modify unit fun unit => (unit.addSymbol symbol).2 }
  | .declare unit kind ty alignment slot => host.declare unit (.new kind ty alignment slot)
  | .setName id name => host.after (Machine.setName id name)
  | .initialise id symbols => host.after (Machine.initialise id symbols)
  | .forget held =>
      { host with machine := host.machine.collect (held ++ host.modules.flatMap Module.globals) }
  | .allocate size align => host.allocate size align
  | .write address bytes => host.after (Machine.writeBytes address bytes)
  | .stackFor thread => host.after (Machine.stackFor thread)
  | .setStackPointer thread pointer => host.after (Machine.setStackPointer thread pointer)
  | .call site depth thread target args pointer =>
      { host with
        machine := (site.execute (Machine.invoke thread depth) thread host.machine target args
          pointer).machine }
  | .outside buffers objects => { host with machine := { host.machine with buffers, objects } }
  | .bind id location => { host with machine := host.machine.bind id location }
  | .finalize unit => host.finalize unit

theorem allocate_machine (host : Host) (size align : Nat) :
    (host.allocate size align).machine = ((Machine.allocate size align).on host.machine).2 := by
  rw [allocate]
  rcases (Machine.allocate size align).on host.machine with ⟨fault | address, after⟩
  · rfl
  · rfl

theorem finalize_of_none {host : Host} {unit : Nat} (missing : host.modules[unit]? = none) :
    host.step (.finalize unit) = host := by
  show host.finalize unit = host
  rw [finalize, missing]

theorem finalize_of_some {host : Host} {index : Nat} {unit : Module}
    (found : host.modules[index]? = some unit) :
    host.step (.finalize index) = host.after (Machine.finalize unit) := by
  show host.finalize index = _
  rw [finalize, found]

/-- A history of events. -/
def run (host : Host) (events : List Event) : Host := events.foldl step host

theorem run_append (host : Host) (first second : List Event) :
    host.run (first ++ second) = (host.run first).run second :=
  List.foldl_append

/-- What every event keeps holds after every history. -/
theorem run_invariant (holds : Host → Prop) (allowed : Event → Prop) {host : Host}
    (start : holds host)
    (step : ∀ host event, allowed event → holds host → holds (host.step event))
    {events : List Event} (all : ∀ event ∈ events, allowed event) : holds (host.run events) := by
  induction events generalizing host with
  | nil => exact start
  | cons event rest ih =>
      obtain ⟨first, others⟩ := List.forall_mem_cons.mp all
      exact ih (step host event first start) others

/-! A small history, for concrete cases of the results about all of them. -/

namespace Sample

def config : Config := { memoryBase := 0x100, memorySize := 64, stackSize := 16 }

/-- A pointer to a number that is declared after it, another name for that number, and the
number. -/
def numbers : Module where
  name := "numbers"
  globals := [⟨0⟩, ⟨1⟩, ⟨2⟩]
  symbols := [.global ⟨2⟩, .integer (.int 12) (-2)]

/-- A byte, and a variable that is larger than memory. -/
def crowd : Module where
  name := "crowd"
  globals := [⟨3⟩, ⟨4⟩]

def events : List Event :=
  [.newModule "numbers", .declare (some 0) (.varDecl false) .pointer 0 (some 1), .allocate 3 1,
    .addSymbol 0 (.global ⟨2⟩), .declare (some 0) .aliasDecl .pointer 0 (some 1),
    .declare (some 0) (.varDecl true) (.int 12) 0 (some 2), .stackFor 5,
    .addSymbol 0 (.integer (.int 12) (-2)), .newModule "crowd",
    .declare (some 1) (.varDecl false) (.int 8) 0 none,
    .declare (some 1) (.varDecl false) (.array (.int 8) 100) 0 none]

def host : Host := run { machine := .start config } events

theorem made : Machine.new config = .ok (.start config) := rfl

theorem numbers_mem : numbers ∈ host.modules := List.mem_of_getElem? (rfl : _[0]? = _)

theorem crowd_mem : crowd ∈ host.modules := List.mem_of_getElem? (rfl : _[1]? = _)

end Sample

end Host

end IrMachine
