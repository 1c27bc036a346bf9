import IrMachine.Debug.Frame
import IrMachine.Load.Site
import Std.Data.HashMap

/-!
# Sessions

A session is a machine with the names that its host has given to things. Names keep globals in
existence: a global lives as long as its own name, a module, a direct load, a saved value or a debug
frame refers to it. `Session.collect` takes out the others.

The names of foreign objects are kept by the machine itself, since foreign code speaks of objects by
name too.
-/

namespace IrMachine

abbrev Names (α : Type) := Std.HashMap String α

/-- A machine and the names given by its host. -/
structure Session where
  machine : Machine
  /-- The thread that steps run on. -/
  thread : ThreadId := 0
  /-- How many threads there have been. -/
  threads : Nat := 1
  buffers : Names BufferId := {}
  globals : Names GlobalId := {}
  modules : Names Module := {}
  loads : Names LoadSite := {}
  directs : Names DirectLoad := {}
  frames : Names DebugFrame := {}
  saved : Names Value := {}

namespace Session

/-- Every global that something in the session refers to. -/
def referred (session : Session) : List GlobalId :=
  session.globals.values ++ session.modules.values.flatMap Module.globals ++
    session.directs.values.map DirectLoad.global ++ session.saved.values.flatMap Value.globals ++
    session.frames.values.flatMap DebugFrame.globals

/-- Takes out the globals that nothing refers to any more. -/
def collect (session : Session) : Session :=
  { session with machine := session.machine.collect session.referred }

/-- Forgets the name of a global, and tells whether something else still refers to it. -/
def dropGlobal (session : Session) (name : String) (id : GlobalId) : Bool × Session :=
  let session := { session with globals := session.globals.erase name }.collect
  ((session.machine.globals.get? id).isSome, session)

def globalName? (session : Session) (id : GlobalId) : Option String :=
  (session.globals.toList.find? (·.2 == id)).map (·.1)

def bufferName? (session : Session) (id : BufferId) : Option String :=
  (session.buffers.toList.find? (·.2 == id)).map (·.1)

/-- The name of an object, which is given one if it has none. -/
def objectName (session : Session) (id : ObjectId) : String × Session :=
  let objects := session.machine.objects.mention id
  ((objects.name? id).getD "", { session with machine := { session.machine with objects } })

/-- Goes over to a thread of its own. -/
def enterThread (session : Session) : Session :=
  { session with thread := session.threads, threads := session.threads + 1 }

def stackPointer? (session : Session) : Option UInt64 :=
  (session.machine.stack? session.thread).map Stack.pointer

/-- Declares a global under a name, in a module if one is given. -/
def declare (session : Session) (name : String) (entry : GlobalEntry)
    (unit : Option (String × Module)) : Session :=
  let (id, machine) := session.machine.declare entry
  { session with
    machine
    globals := session.globals.insert name id
    modules := unit.elim session.modules fun (name, unit) =>
      session.modules.insert name (unit.addGlobal id) }

def addBuffer (session : Session) (name : String) (buffer : Buffer) : Session :=
  let (id, machine) := session.machine.addBuffer buffer
  { session with machine, buffers := session.buffers.insert name id }

def addObject (session : Session) (name : String) (object : ForeignObject) :
    ObjectId × Session :=
  let (id, machine) := session.machine.addObject object
  (id, { session with machine := { machine with objects := machine.objects.giveName name id } })

def save (session : Session) (name : String) (value : Value) : Session :=
  { session with saved := session.saved.insert name value }

def setModule (session : Session) (name : String) (unit : Module) : Session :=
  { session with modules := session.modules.insert name unit }

/-- Loads through an address at a site, and keeps what the site has learnt. -/
def load (session : Session) (name : String) (site : LoadSite) (address : Address) :
    Except Fault Value × LoadSite × Session :=
  let (result, site, machine) := site.execute session.machine address
  (result, site, { session with machine, loads := session.loads.insert name site })

/-- Loads the value of a global, and keeps what the load has learnt. -/
def loadDirect (session : Session) (name : String) (load : DirectLoad) :
    Except Fault Value × Session :=
  let (result, load, machine) := load.execute session.machine
  (result, { session with machine, directs := session.directs.insert name load })

end Session

end IrMachine
