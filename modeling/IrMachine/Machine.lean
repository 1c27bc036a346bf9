import IrMachine.Config.Basic
import IrMachine.Foreign.Object
import IrMachine.Global.Basic
import IrMachine.Memory.Buffer
import IrMachine.Memory.Native

/-!
# The machine

The whole state of one interpreter: native memory, managed buffers, globals and where they are
stored, the stacks of its threads, and the foreign objects it has met. Operations take a machine and
answer with a result and the machine afterwards, which is a new state also when the result is a
fault.

A thread is given its stack the first time it asks for one, out of native memory, and keeps it. The
stack pointer starts at the top.
-/

namespace IrMachine

def version : String := "0.1.0"

abbrev ThreadId := Nat

/-- The stack of one thread. -/
structure Stack where
  base : UInt64
  top : UInt64
  pointer : UInt64
deriving DecidableEq, Inhabited

structure Locations where
  pairs : List (GlobalId × UInt64) := []
deriving DecidableEq, Inhabited

namespace Locations

def get? (locations : Locations) (id : GlobalId) : Option UInt64 := locations.pairs.lookup id

/-- Records the place of a global, instead of any other. -/
def bind (locations : Locations) (id : GlobalId) (location : UInt64) : Locations :=
  ⟨(id, location) :: locations.pairs.filter (·.1 != id)⟩

def size (locations : Locations) : Nat := locations.pairs.length

end Locations

/-- The state of one interpreter. -/
structure Machine where
  config : Config := {}
  memory : NativeMemory
  buffers : Array Buffer := #[]
  globals : GlobalTable := {}
  locations : Locations := {}
  threadStacks : List (ThreadId × Stack) := []
  objects : ObjectTable := {}

/-- A computation on the machine. The state it leaves counts also when it faults. -/
abbrev Run := ExceptT Fault (StateM Machine)

namespace Run

variable {α β : Type}

/-- A computation's result and the machine afterwards. -/
def on (run : Run α) (machine : Machine) : Except Fault α × Machine :=
  StateT.run (ExceptT.run run) machine

/-- Takes over a result that needs no machine. -/
def ofExcept (result : Except Fault α) : Run α := ExceptT.mk (pure result)

@[simp] theorem on_pure (value : α) (machine : Machine) :
    (pure value : Run α).on machine = (.ok value, machine) := rfl

@[simp] theorem on_throw (fault : Fault) (machine : Machine) :
    (throw fault : Run α).on machine = (.error fault, machine) := rfl

@[simp] theorem on_ofExcept (result : Except Fault α) (machine : Machine) :
    (ofExcept result).on machine = (result, machine) := rfl

@[simp] theorem on_get (machine : Machine) :
    (get : Run Machine).on machine = (.ok machine, machine) := rfl

@[simp] theorem on_modify (change : Machine → Machine) (machine : Machine) :
    (modify change : Run Unit).on machine = (.ok (), change machine) := rfl

/-- A computation goes on from the state that its first part leaves, unless that part faults. -/
theorem on_bind (first : Run α) (next : α → Run β) (machine : Machine) :
    (first >>= next).on machine =
      match first.on machine with
      | (.ok value, after) => (next value).on after
      | (.error fault, after) => (.error fault, after) := by
  rcases h : first.on machine with ⟨result, after⟩
  have h' : first machine = (result, after) := h
  simp only [Run.on, ExceptT.run, StateT.run, Bind.bind, ExceptT.bind, ExceptT.mk, StateT.bind, h']
  cases result <;> rfl

end Run

namespace Machine

/-- The alignment of thread stacks. -/
def stackAlignment : Nat := 16

def start (config : Config) : Machine :=
  { config, memory := .new config.memoryBase config.memorySize.toNat }

def new (config : Config) : Except Fault Machine := config.validate.map fun _ => start config

def nameOf (machine : Machine) (id : GlobalId) : String := machine.globals.name id

def resolve (machine : Machine) (id : GlobalId) : Except Fault UInt64 :=
  match machine.locations.get? id with
  | some location => .ok location
  | none => .error (.unresolvedGlobal (machine.nameOf id))

/-- Records the place of a global. -/
def bind (machine : Machine) (id : GlobalId) (location : UInt64) : Machine :=
  { machine with locations := machine.locations.bind id location }

/-- The address that is stored in a global. -/
def loadGlobal (machine : Machine) (id : GlobalId) : Except Fault UInt64 := do
  machine.memory.getPointer (← machine.resolve id)

/-- A managed buffer; one that does not exist is empty. -/
def buffer (machine : Machine) (id : BufferId) : Buffer :=
  machine.buffers.getD id.index (.new 0)

def addBuffer (machine : Machine) (buffer : Buffer) : BufferId × Machine :=
  (⟨machine.buffers.size⟩, { machine with buffers := machine.buffers.push buffer })

def setBuffer (machine : Machine) (id : BufferId) (buffer : Buffer) : Machine :=
  { machine with buffers := machine.buffers.setIfInBounds id.index buffer }

def stack? (machine : Machine) (thread : ThreadId) : Option Stack :=
  machine.threadStacks.lookup thread

/-- Records the stack of a thread, instead of any other. -/
def setStack (machine : Machine) (thread : ThreadId) (stack : Stack) : Machine :=
  { machine with threadStacks := (thread, stack) :: machine.threadStacks.filter (·.1 != thread) }

def allocate (size align : Nat) : Run UInt64 := do
  let (address, memory) ← Run.ofExcept ((← get).memory.allocate size align)
  modify ({ · with memory })
  return address

/-- The stack of a thread, which is made the first time. -/
def stackFor (thread : ThreadId) : Run Stack := do
  let machine ← get
  match machine.stack? thread with
  | some stack => return stack
  | none =>
      let size := machine.config.stackSize
      let base ← allocate size.toNat stackAlignment
      let stack := { base, top := base + size, pointer := base + size : Stack }
      modify (·.setStack thread stack)
      return stack

def setStackPointer (thread : ThreadId) (pointer : UInt64) : Run Unit := do
  let stack ← stackFor thread
  modify (·.setStack thread { stack with pointer })

def putScalar (address : UInt64) (value : Scalar) : Run Unit := do
  let memory ← Run.ofExcept ((← get).memory.putScalar address value)
  modify ({ · with memory })

def putPointer (address value : UInt64) : Run Unit := do
  let memory ← Run.ofExcept ((← get).memory.putPointer address value)
  modify ({ · with memory })

def writeBytes (address : UInt64) (bytes : Bytes) : Run Unit := do
  let memory ← Run.ofExcept ((← get).memory.write address bytes)
  modify ({ · with memory })

/-- Changes a managed buffer, unless the change faults. -/
def updateBuffer (id : BufferId) (update : Buffer → Except Fault Buffer) : Run Unit := do
  let buffer ← Run.ofExcept (update ((← get).buffer id))
  modify (·.setBuffer id buffer)

def writeBuffer (id : BufferId) (offset : Int64) (bytes : Bytes) : Run Unit :=
  updateBuffer id (·.write offset bytes)

def writeBufferInt64 (id : BufferId) (offset value : Int64) : Run Unit :=
  updateBuffer id (·.writeInt64 offset value)

def declare (machine : Machine) (entry : GlobalEntry) : GlobalId × Machine :=
  let (id, globals) := machine.globals.declare entry
  (id, { machine with globals })

/-- Changes the entry of a global; one that is gone is left alone. -/
def updateGlobal (id : GlobalId) (update : GlobalEntry → Except Fault GlobalEntry) :
    Run Unit := do
  match (← get).globals.get? id with
  | none => return
  | some entry =>
      let entry ← Run.ofExcept (update entry)
      modify fun machine => { machine with globals := machine.globals.set id entry }

def setName (id : GlobalId) (name : String) : Run Unit := updateGlobal id (·.setName name)

def initialise (id : GlobalId) (symbols : List Symbol) : Run Unit :=
  updateGlobal id (·.initialise symbols)

def addObject (machine : Machine) (object : ForeignObject) : ObjectId × Machine :=
  let (id, objects) := machine.objects.add object
  (id, { machine with objects })

/-- Forgets every global that is not among those still referred to. -/
def collect (machine : Machine) (referred : List GlobalId) : Machine :=
  { machine with globals := machine.globals.collect referred }

end Machine

end IrMachine
