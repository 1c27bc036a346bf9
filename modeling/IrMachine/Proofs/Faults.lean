import IrMachine.Foreign.Query
import IrMachine.Proofs.Foreign.Answer
import IrMachine.Proofs.Foreign.Outcome
import IrMachine.Proofs.Load.Typing

/-!
# Faults of execution are fatal

`Operation` lists what a program makes the machine do while it executes, and `Operation.Raises` when
that is a fault. Which kinds of faults an operation can raise is said in one table,
`Operation.kinds`; each function on the way has one lemma that names its own kinds
(`FaultsIn`), and these are joined along the way the function calls others.

The kinds that only reject a module or a configuration are in no row of the table, so
`Operation.faults_are_fatal` follows from it: no fault of an execution leaves it to the embedder to
go on.
-/

namespace IrMachine

inductive FaultKind where
  | operand | foreign | notCallable | memory | unresolvedGlobal | lifecycle | config | overflow
deriving DecidableEq

@[simp] def Fault.kind : Fault → FaultKind
  | operand .. => .operand
  | foreign _ => .foreign
  | notCallable _ => .notCallable
  | memory .. => .memory
  | unresolvedGlobal _ => .unresolvedGlobal
  | lifecycle .. => .lifecycle
  | config _ => .config
  | overflow => .overflow

/-- A fault is fatal exactly if it is not one of setting up a module or a configuration. -/
theorem Fault.isFatal_iff (fault : Fault) :
    fault.isFatal = true ↔ fault.kind ≠ .lifecycle ∧ fault.kind ≠ .config := by
  cases fault <;> simp [isFatal, severity]

/-- A result is no fault of other kinds than these. -/
structure FaultsIn {α : Type} (kinds : List FaultKind) (result : Except Fault α) : Prop where
  kind_mem : ∀ fault, result = .error fault → fault.kind ∈ kinds

namespace FaultsIn

variable {α β : Type} {kinds more : List FaultKind}

theorem of_ok {value : α} : FaultsIn kinds (.ok value) := ⟨nofun⟩

theorem of_error {fault : Fault} (member : fault.kind ∈ kinds) :
    FaultsIn kinds (.error fault : Except Fault α) := by
  constructor
  rintro _ ⟨⟩
  exact member

theorem mono {result : Except Fault α} (faults : FaultsIn kinds result) (part : kinds ⊆ more) :
    FaultsIn more result :=
  ⟨fun fault failed => part (faults.kind_mem fault failed)⟩

/-- A fault of a part may be passed on as the fault of the whole. -/
theorem pass_on {part : Except Fault α} {fault : Fault} (faults : FaultsIn kinds part)
    (failed : part = .error fault) : FaultsIn kinds (.error fault : Except Fault β) :=
  of_error (faults.kind_mem fault failed)

theorem map {result : Except Fault α} (faults : FaultsIn kinds result) (change : α → β) :
    FaultsIn kinds (result.map change) :=
  ⟨fun fault failed => faults.kind_mem fault (map_eq_error_iff.mp failed)⟩

theorem bind {first : Except Fault α} {next : α → Except Fault β} (faults : FaultsIn kinds first)
    (later : ∀ value, FaultsIn kinds (next value)) : FaultsIn kinds (first >>= next) := by
  constructor
  intro fault failed
  obtain here | ⟨value, _, there⟩ := bind_eq_error_iff.mp failed
  · exact faults.kind_mem fault here
  · exact (later value).kind_mem fault there

/-- What comes back over the foreign boundary fails with faults of the boundary. -/
theorem mapError_foreign {result : Except ForeignFault α} :
    FaultsIn [.foreign] (result.mapError Fault.foreign) := by
  cases result with
  | ok value => exact of_ok
  | error fault => exact of_error List.mem_cons_self

end FaultsIn

theorem Machine.faultsIn_resolve (machine : Machine) (id : GlobalId) :
    FaultsIn [.unresolvedGlobal] (machine.resolve id) := by
  rw [resolve]
  cases machine.locations.get? id with
  | some location => exact .of_ok
  | none => exact .of_error List.mem_cons_self

theorem NativeMemory.faultsIn_read (memory : NativeMemory) (address : UInt64) (length : Nat) :
    FaultsIn [.memory] (memory.read address length) := by
  rw [read]
  split
  · exact .of_ok
  · exact .of_error List.mem_cons_self

theorem NativeMemory.faultsIn_getPointer (memory : NativeMemory) (address : UInt64) :
    FaultsIn [.memory] (memory.getPointer address) :=
  (memory.faultsIn_read address _).map _

theorem Buffer.faultsIn_readInt64 (buffer : Buffer) (offset : Int64) :
    FaultsIn [.operand] (buffer.readInt64 offset) := by
  apply FaultsIn.map
  rw [read]
  split
  · exact .of_ok
  · exact .of_error List.mem_cons_self

namespace Address

theorem faultsIn_toNative (machine : Machine) (address : Address) :
    FaultsIn [.operand, .unresolvedGlobal] (address.toNative machine) := by
  cases address with
  | native location => exact .of_ok
  | global id => exact (machine.faultsIn_resolve id).mono (by decide)
  | boxed value =>
      cases value with
      | int number => exact .of_ok
      | float number => exact .of_error (by simp)
      | bool flag => exact .of_error (by simp)
  | buffer id offset => exact .of_error (by simp)
  | object id offset => exact .of_error (by simp)

theorem faultsIn_offsetBy (machine : Machine) (address : Address) (delta : Int64) :
    FaultsIn [.operand] (address.offsetBy machine delta) := by
  cases address with
  | boxed value =>
      cases value with
      | int number => exact .of_ok
      | float number => exact .of_error (by simp)
      | bool flag => exact .of_error (by simp)
  | global id => exact .of_error (by simp)
  | _ => exact .of_ok

theorem faultsIn_unmovedObject (operation : String) (address : Address) :
    FaultsIn [.operand] (address.unmovedObject operation) := by
  cases address with
  | object id offset =>
      rw [unmovedObject]
      split
      · exact .of_ok
      · exact .of_error List.mem_cons_self
  | _ => exact .of_ok

theorem faultsIn_escape (machine : Machine) (address : Address) :
    FaultsIn [.foreign, .unresolvedGlobal] (address.escape machine.resolve) := by
  cases address with
  | native location => exact .of_ok
  | global id => exact ((machine.faultsIn_resolve id).map _).mono (by decide)
  | boxed value => cases value <;> exact .of_ok
  | buffer id offset => exact .of_error (by simp)
  | object id offset =>
      rw [escape]
      split
      · exact .of_ok
      · exact .of_error (by simp)

end Address

theorem Value.faultsIn_escape (machine : Machine) (ty : Ty) (value : Value) :
    FaultsIn [.foreign, .unresolvedGlobal] (value.escape machine.resolve ty) := by
  cases value with
  | void => exact .of_ok
  | address address => exact address.faultsIn_escape machine
  | scalar number =>
      apply FaultsIn.map
      cases number with
      | varInt value =>
          rw [Scalar.escape]
          split
          · exact .of_ok
          · exact .of_error (by simp)
      | _ => exact .of_ok

theorem ForeignRead.faultsIn_execute (reader : ForeignRead) (objects : ObjectTable) (id : ObjectId)
    (offset : Int64) : FaultsIn [.foreign] (reader.execute objects id offset).1 := by
  constructor
  intro fault failed
  obtain ⟨inner, rfl⟩ := execute_eq_error failed
  exact List.mem_cons_self

theorem ForeignQuery.faultsIn_execute (query : ForeignQuery) (objects : ObjectTable)
    (value : Value) : FaultsIn [.operand] (query.execute objects value) := by
  cases value with
  | address address => exact (address.faultsIn_unmovedObject query.name).map _
  | _ => exact .of_ok

theorem Machine.faultsIn_loadGlobal (machine : Machine) (id : GlobalId) :
    FaultsIn [.memory, .unresolvedGlobal] (machine.loadGlobal id) := by
  apply FaultsIn.bind
  · exact (machine.faultsIn_resolve id).mono (by decide)
  · exact fun location => (machine.memory.faultsIn_getPointer location).mono (by decide)

def loadFaults : List FaultKind := [.operand, .foreign, .memory, .unresolvedGlobal]

namespace LoadKind

theorem faultsIn_select (kind : LoadKind) (address : AddressKind) :
    FaultsIn [.operand] (kind.select address) := by
  fun_cases select kind address with
  | case3 => exact .of_error List.mem_cons_self
  | case8 kind reads =>
      rw [if_pos reads]
      exact .of_ok
  | case9 kind refuses =>
      rw [if_neg refuses]
      exact .of_error List.mem_cons_self
  | case10 => exact .of_error List.mem_cons_self
  | _ => exact .of_ok

theorem faultsIn_readNative (kind : LoadKind) (memory : NativeMemory) (location : UInt64) :
    FaultsIn [.memory] (kind.readNative memory location) := by
  constructor
  intro fault failed
  obtain ⟨size, rfl⟩ := readNative_eq_error failed
  exact List.mem_cons_self

theorem faultsIn_fromForeign (kind : LoadKind) (value : Value) :
    FaultsIn [.operand] (kind.fromForeign value) := by
  constructor
  intro fault failed
  unfold fromForeign at failed
  split at failed
  · split at failed <;> cases failed
    exact List.mem_cons_self
  · cases failed

end LoadKind

/-- A routine faults like a load, also with an address that it was not picked for. -/
theorem Routine.faultsIn_run (routine : Routine) (kind : LoadKind) (machine : Machine)
    (address : Address) : FaultsIn loadFaults (routine.run kind machine address).1 := by
  have unruled : FaultsIn loadFaults (.error (kind.noRule address.kind) : Except Fault Value) :=
    .of_error List.mem_cons_self
  cases routine with
  | direct =>
      apply FaultsIn.bind
      · exact (address.faultsIn_toNative machine).mono (by decide)
      · exact fun location => (kind.faultsIn_readNative machine.memory location).mono (by decide)
  | buffer =>
      cases address with
      | buffer id offset =>
          exact (((machine.buffer id).faultsIn_readInt64 offset).map _).mono (by decide)
      | _ => exact unruled
  | foreign =>
      cases address with
      | object id offset =>
          apply FaultsIn.bind
          · exact (ForeignRead.faultsIn_execute ..).mono (by decide)
          · exact fun value => (kind.faultsIn_fromForeign value).mono (by decide)
      | _ => exact unruled
  | passThrough => exact .of_ok

namespace LoadSite

theorem faultsIn_choose (site : LoadSite) (caching : Bool) (address : AddressKind) :
    FaultsIn [.operand] (site.choose caching address).1 := by
  have selected := site.kind.faultsIn_select address
  cases caching with
  | false => exact selected
  | true =>
      rcases checked : site.cache.check address.key with ⟨hit, cache⟩
      cases hit with
      | false =>
          rw [choose_of_miss checked]
          exact selected
      | true =>
          cases kept : site.picked with
          | some routine =>
              rw [choose_of_kept checked kept]
              exact .of_ok
          | none =>
              rw [choose_of_none checked kept]
              exact selected

/-- A site faults like a load whatever its cache holds. -/
theorem faultsIn_execute (site : LoadSite) (machine : Machine) (address : Address) :
    FaultsIn loadFaults (site.execute machine address).1 := by
  rw [execute]
  have choices := site.faultsIn_choose machine.config.inlineCaching address.kind
  rcases chosen : site.choose machine.config.inlineCaching address.kind with
    ⟨fault | routine, used⟩
  · exact (choices.pass_on (by rw [chosen])).mono (by decide)
  · exact routine.faultsIn_run used.kind machine address

end LoadSite

theorem DirectLoad.faultsIn_execute (load : DirectLoad) (machine : Machine) :
    FaultsIn loadFaults (load.execute machine).1 := by
  rw [execute]
  cases resolved : machine.resolve load.global with
  | error fault => exact ((machine.faultsIn_resolve _).pass_on resolved).mono (by decide)
  | ok location => exact load.site.faultsIn_execute machine (.native location)

def callFaults : List FaultKind :=
  [.operand, .foreign, .notCallable, .memory, .unresolvedGlobal, .overflow]

namespace CallSite

variable (signature : Signature) (machine : Machine)

theorem faultsIn_callee (target : Value) : FaultsIn [.operand, .notCallable] (callee target) := by
  cases target with
  | address address =>
      apply FaultsIn.bind
      · exact (address.faultsIn_unmovedObject "execute").mono (by decide)
      · intro found
        cases found with
        | some id => exact .of_ok
        | none => exact .of_error (by simp)
  | _ => exact .of_error (by simp)

theorem faultsIn_arguments (site : CallSite) (target : Value) (args : List Value) :
    FaultsIn [.operand, .notCallable] (site.arguments target args) := by
  apply FaultsIn.bind
  · exact faultsIn_callee target
  · intro id
    split
    · exact .of_ok
    · exact .of_error List.mem_cons_self

theorem faultsIn_escapeAll (asked args : List Argument) :
    FaultsIn [.foreign, .unresolvedGlobal] (escapeAll { signature } machine asked args).1 := by
  induction args generalizing asked with
  | nil => exact .of_ok
  | cons argument rest ih =>
      have here := argument.2.faultsIn_escape machine argument.1
      rw [escapeAll]
      split
      next failed => exact here.pass_on failed
      next => exact (ih (asked ++ [argument])).map _

theorem faultsIn_prepare (target : Value) (args : List Value) :
    FaultsIn callFaults (prepare { signature } machine target args).1 := by
  have counted := faultsIn_arguments { signature } target args
  rw [prepare]
  split
  next failed => exact (counted.pass_on failed).mono (by decide)
  next => exact ((faultsIn_escapeAll signature machine [] _).map _).mono (by decide)

/-- Whatever a callee answers, a call that reached it only faults at the boundary. -/
theorem faultsIn_conclude (site : CallSite) (reply : Reply ForeignFault Raw) :
    FaultsIn [.foreign] (site.conclude reply).result := by
  rw [conclude]
  split
  · exact .of_error List.mem_cons_self
  · exact .mapError_foreign

theorem faultsIn_execute (invoke : Invoke) (thread : ThreadId) (target : Value)
    (args : List Value) (pointer : UInt64) :
    FaultsIn callFaults
      (execute { signature } invoke thread machine target args pointer).result := by
  have prepares := faultsIn_prepare signature machine target args
  rw [execute]
  rcases prepared : prepare { signature } machine target args with ⟨fault | ⟨id, raws⟩, asked⟩
  · exact prepares.pass_on (congrArg Prod.fst prepared)
  · rcases given : (Machine.stackFor thread).on machine with ⟨fault | stack, current⟩
    · obtain rfl | ⟨start, rfl⟩ :=
        NativeMemory.allocate_eq_error (Machine.stackFor_eq_error given).2.2
      · exact .of_error (by simp [callFaults])
      · exact .of_error (by simp [callFaults])
    · exact (faultsIn_conclude ..).mono (by decide)

end CallSite

/-- What a program makes the machine do while it executes. Foreign calls convert values by the
default conversions, and their callees answer in any way at all. -/
inductive Operation where
  | load (site : LoadSite) (address : Address)
  | loadDirect (load : DirectLoad)
  | loadGlobal (global : GlobalId)
  | readObject (reader : ForeignRead) (id : ObjectId) (offset : Int64)
  | call (signature : Signature) (invoke : Invoke) (thread : ThreadId) (target : Value)
      (args : List Value) (pointer : UInt64)
  | ask (query : ForeignQuery) (value : Value)
  | move (address : Address) (delta : Int64)
  | locate (address : Address)

namespace Operation

/-- An operation ends with a fault on a machine. -/
def Raises (machine : Machine) (fault : Fault) : Operation → Prop
  | load site address => (site.execute machine address).1 = .error fault
  | loadDirect direct => (direct.execute machine).1 = .error fault
  | loadGlobal global => machine.loadGlobal global = .error fault
  | readObject reader id offset => (reader.execute machine.objects id offset).1 = .error fault
  | call signature invoke thread target args pointer =>
      (CallSite.execute { signature } invoke thread machine target args pointer).result =
        .error fault
  | ask query value => query.execute machine.objects value = .error fault
  | move address delta => address.offsetBy machine delta = .error fault
  | locate address => address.toNative machine = .error fault

def IsLoad : Operation → Prop
  | load .. | loadDirect .. | loadGlobal .. | readObject .. => True
  | call .. | ask .. | move .. | locate .. => False

def kinds : Operation → List FaultKind
  | load .. | loadDirect .. => loadFaults
  | loadGlobal .. => [.memory, .unresolvedGlobal]
  | readObject .. => [.foreign]
  | call .. => callFaults
  | ask .. | move .. => [.operand]
  | locate .. => [.operand, .unresolvedGlobal]

variable {operation : Operation} {machine : Machine} {fault : Fault}

theorem Raises.kind_mem (raised : operation.Raises machine fault) :
    fault.kind ∈ operation.kinds := by
  cases operation with
  | load site address => exact (site.faultsIn_execute machine address).kind_mem fault raised
  | loadDirect direct => exact (direct.faultsIn_execute machine).kind_mem fault raised
  | loadGlobal global => exact (machine.faultsIn_loadGlobal global).kind_mem fault raised
  | readObject reader id offset => exact (reader.faultsIn_execute ..).kind_mem fault raised
  | call signature => exact (CallSite.faultsIn_execute signature ..).kind_mem fault raised
  | ask query value => exact (query.faultsIn_execute ..).kind_mem fault raised
  | move address delta => exact (address.faultsIn_offsetBy machine delta).kind_mem fault raised
  | locate address => exact (address.faultsIn_toNative machine).kind_mem fault raised

/-- No operation rejects a module or a configuration. -/
theorem kinds_of_execution (operation : Operation) :
    .lifecycle ∉ operation.kinds ∧ .config ∉ operation.kinds := by
  cases operation <;> simp [kinds, loadFaults, callFaults]

theorem IsLoad.kinds (isLoad : operation.IsLoad) : .notCallable ∉ operation.kinds := by
  cases operation <;> simp_all [Operation.kinds, IsLoad, loadFaults]

/-- Every fault raised while executing is fatal, and it is of a kind that belongs to the operation:
it is never one that rejects a module or a configuration, and a load never finds that something
cannot be called. -/
theorem faults_are_fatal (raised : operation.Raises machine fault) :
    fault.isFatal = true ∧ fault.kind ∈ operation.kinds ∧
    (∀ name cause, fault ≠ .lifecycle name cause) ∧ (∀ cause, fault ≠ .config cause) ∧
    (operation.IsLoad → ∀ typeName, fault ≠ .notCallable typeName) := by
  have member := raised.kind_mem
  obtain ⟨noLifecycle, noConfig⟩ := operation.kinds_of_execution
  refine ⟨fault.isFatal_iff.mpr ⟨?_, ?_⟩, member, ?_, ?_, ?_⟩
  · exact fun lifecycle => noLifecycle (lifecycle ▸ member)
  · exact fun config => noConfig (config ▸ member)
  · rintro name cause rfl
    exact noLifecycle member
  · rintro cause rfl
    exact noConfig member
  · rintro isLoad typeName rfl
    exact isLoad.kinds member

/-- A load that leaves memory and a call of something that is no foreign object end the
execution. -/
theorem sample_fatal :
    (load { kind := .address } (.native 0x13C)).Raises LoadSite.sampleMachine (.memory 0x13C 8) ∧
    (Fault.memory 0x13C 8).isFatal = true ∧
    (call ⟨[], .void⟩ (Machine.invoke 0 1) 0 (.address (.native 0x100)) [] 0).Raises
      LoadSite.sampleMachine (.notCallable "native address") ∧
    (Fault.notCallable "native address").isFatal = true := by
  have outside : (load { kind := .address } (.native 0x13C)).Raises LoadSite.sampleMachine
      (.memory 0x13C 8) := rfl
  have refused : (call ⟨[], .void⟩ (Machine.invoke 0 1) 0 (.address (.native 0x100)) [] 0).Raises
      LoadSite.sampleMachine (.notCallable "native address") := rfl
  exact ⟨outside, (faults_are_fatal outside).1, refused, (faults_are_fatal refused).1⟩

end Operation

end IrMachine
