import IrMachine.Address.Arithmetic
import IrMachine.Foreign.Read
import IrMachine.Load.Cache
import IrMachine.Load.Kind

/-!
# Load sites

A load goes by the representation of its address. The rules are these; every other combination is a
fatal fault.

| value             | native | global | buffer     | boxed         | foreign object |
|-------------------|--------|--------|------------|---------------|----------------|
| fixed int, floats | read   | read   | -          | -             | -              |
| other integers    | read   | read   | -          | -             | foreign read   |
| function          | read   | read   | -          | -             | foreign read   |
| address           | read   | read   | stored i64 | integers only | foreign read   |
| aggregate         | as is  | -      | -          | -             | as is          |

`Routine.select` is that table. A site whose cache has only seen one representation reuses the
routine it picked the first time.
-/

namespace IrMachine

/-- How a load gets at its value. -/
inductive Routine where
  /-- From native memory. -/
  | direct
  /-- An address stored in a managed buffer. -/
  | buffer
  /-- By asking a foreign object. -/
  | foreign
  /-- The address is the value. -/
  | passThrough
deriving DecidableEq, Inhabited

/-- One load in the program. -/
structure LoadSite where
  kind : LoadKind
  cache : InlineCache := .new
  /-- The routine that was picked when the cache was in use for the first time. -/
  picked : Option Routine := none
deriving DecidableEq, Inhabited

namespace LoadKind

def noRule (kind : LoadKind) (address : AddressKind) : Fault :=
  .operand ("load " ++ kind.text) (.noLoadRule address)

/-- The rule for a kind of load and a representation. -/
def select (kind : LoadKind) (address : AddressKind) : Except Fault Routine :=
  match kind, address with
  | aggregate, .native | aggregate, .object => .ok .passThrough
  | aggregate, _ => .error (kind.noRule address)
  | _, .native | _, .global => .ok .direct
  | LoadKind.address, .buffer => .ok .buffer
  | LoadKind.address, .boxed => .ok .direct
  | _, .object => if kind.readsObjects then .ok .foreign else .error (kind.noRule address)
  | _, _ => .error (kind.noRule address)

def readNative (kind : LoadKind) (memory : NativeMemory) (location : UInt64) :
    Except Fault Value :=
  match kind with
  | scalar kind => (memory.getScalar kind location).map .scalar
  | address => (memory.getPointer location).map fun pointer => .address (.native pointer)
  | aggregate => .ok (.address (.native location))

/-- What a load makes of a foreign answer: an integer with its width carried along is brought to the
width of the load. -/
def fromForeign (kind : LoadKind) (value : Value) : Except Fault Value :=
  match kind with
  | scalar (.varInt bits) =>
      match value.toVarInt? bits with
      | some value => .ok (.scalar (.varInt value))
      | none => .error (.operand ("load " ++ kind.text) (.notAnInteger value.typeName))
  | _ => .ok value

end LoadKind

namespace Routine

def run (routine : Routine) (kind : LoadKind) (machine : Machine) (address : Address) :
    Except Fault Value × Machine :=
  match routine, address with
  | direct, address =>
      ((address.toNative machine).bind (kind.readNative machine.memory), machine)
  | buffer, .buffer id offset =>
      (((machine.buffer id).readInt64 offset).map fun value =>
        .address (.native value.toUInt64), machine)
  | foreign, .object id offset =>
      let (value, objects) := ForeignRead.execute ⟨kind.ty⟩ machine.objects id offset
      (value.bind kind.fromForeign, { machine with objects })
  | passThrough, address => (.ok (.address address), machine)
  | _, address => (.error (kind.noRule address.kind), machine)

end Routine

namespace LoadSite

def ofTy (ty : Ty) : Except Fault LoadSite := (LoadKind.ofTy ty).map ({ kind := · })

/-- The routine for an address, and the site afterwards. The cache is consulted only where the
machine's configuration has it in use. -/
def choose (site : LoadSite) (caching : Bool) (address : AddressKind) :
    Except Fault Routine × LoadSite :=
  if caching then
    let (hit, cache) := site.cache.check address.key
    let site := { site with cache }
    if hit then
      match site.picked with
      | some routine => (.ok routine, site)
      | none =>
          match site.kind.select address with
          | .ok routine => (.ok routine, { site with picked := some routine })
          | .error fault => (.error fault, site)
    else (site.kind.select address, site)
  else (site.kind.select address, site)

/-- Loads a value through an address. -/
def execute (site : LoadSite) (machine : Machine) (address : Address) :
    Except Fault Value × LoadSite × Machine :=
  match site.choose machine.config.inlineCaching address.kind with
  | (.error fault, site) => (.error fault, site, machine)
  | (.ok routine, site) =>
      let (result, machine) := routine.run site.kind machine address
      (result, site, machine)

def describe (site : LoadSite) : String :=
  "LoadNode \x7b kind: " ++ site.kind.describe ++ ", cache: " ++ site.cache.state.describe ++
    " \x7d"

end LoadSite

/-- A load of a global's own value. -/
structure DirectLoad where
  global : GlobalId
  site : LoadSite
deriving DecidableEq, Inhabited

namespace DirectLoad

/-- A load of a global that is declared in a table, with values of the declared type. -/
def new (table : GlobalTable) (global : GlobalId) : Except Fault DirectLoad := do
  let entry ← table.entry global
  let site ← LoadSite.ofTy entry.ty
  return { global, site }

/-- Loads the global's current value. -/
def execute (load : DirectLoad) (machine : Machine) :
    Except Fault Value × DirectLoad × Machine :=
  match machine.resolve load.global with
  | .error fault => (.error fault, load, machine)
  | .ok location =>
      let (result, site, machine) := load.site.execute machine (.native location)
      (result, { load with site }, machine)

end DirectLoad

end IrMachine
