import IrMachine.Machine

/-!
# Finalising a module

Gives every variable of a module a place in native memory, resolves every initializer and writes it.
Everything that can be wrong with the module is checked first. Only then is storage handed out, in
the order of the declarations, so that references to later globals resolve too; and only when all of
it has been handed out are places recorded, entries resolved and initializers written.

An alias stands for the variable at the end of its chain of references. A chain of more than
`maxAliases` aliases is taken for a cycle.
-/

namespace IrMachine

/-- The initializers of a module's globals, looked up but not yet stored. -/
abbrev Initializers := List (GlobalId × Option Symbol)

/-- The longest chain of aliases that is followed. -/
def maxAliases : Nat := 64

namespace GlobalTable

/-- The global that an entry refers to, which has to exist. -/
def follow (table : GlobalTable) (referrer : GlobalEntry) (target : GlobalId) :
    Except Fault (GlobalId × GlobalEntry) :=
  match table.get? target with
  | some entry => .ok (target, entry)
  | none => .error (referrer.fault .dangling)

def initializers (table : GlobalTable) (unit : Module) : Except Fault Initializers :=
  unit.globals.mapM fun id => do
    return (id, ← (← table.entry id).pendingInitializer unit.symbols)

/-- The initializer of an entry: the one about to be stored, or the one stored before. -/
def initializerOf (pending : Initializers) (id : GlobalId) (entry : GlobalEntry) :
    Option Symbol :=
  match pending.lookup id with
  | some symbol => symbol
  | none => entry.value?

def referenced (table : GlobalTable) (pending : Initializers) (id : GlobalId)
    (entry : GlobalEntry) : Except Fault (GlobalId × GlobalEntry) :=
  match initializerOf pending id entry with
  | some (.global target) => table.follow entry target
  | _ => .error (entry.fault .aliasOfNothing)

/-- Follows at most `fuel` aliases from a global on; `origin` is the alias that started it. -/
def followAliases (table : GlobalTable) (pending : Initializers) (origin : GlobalEntry) :
    Nat → GlobalId × GlobalEntry → Except Fault (GlobalId × GlobalEntry)
  | 0, _ => .error (origin.fault .aliasUnending)
  | fuel + 1, (id, entry) =>
      if entry.kind.isAlias then do
        table.followAliases pending origin fuel (← table.referenced pending id entry)
      else .ok (id, entry)

/-- The variable at the end of an alias's chain. -/
def aliasTarget (table : GlobalTable) (pending : Initializers) (id : GlobalId)
    (entry : GlobalEntry) : Except Fault (GlobalId × GlobalEntry) := do
  table.followAliases pending entry maxAliases (← table.referenced pending id entry)

end GlobalTable

namespace Machine

/-- Checks that a global is about to be given a place or has one. -/
def checkPlaced (machine : Machine) (pending : Initializers) (id : GlobalId) :
    Except Fault Unit :=
  if (pending.lookup id).isSome then .ok () else (machine.resolve id).map fun _ => ()

def unfit (machine : Machine) (entry : GlobalEntry) (symbol : Symbol) : Fault :=
  entry.fault (.unfit (symbol.describe machine.globals) entry.ty)

/-- Checks that an initializer suits its variable and refers to nothing without a place. -/
def checkInitializer (machine : Machine) (pending : Initializers) (entry : GlobalEntry)
    (symbol : Symbol) : Except Fault Unit := do
  if symbol.fits entry.ty then
    match symbol with
    | .global target =>
        let (target, _) ← machine.globals.follow entry target
        machine.checkPlaced pending target
    | _ => .ok ()
  else .error (machine.unfit entry symbol)

/-- Checks one global. A variable answers with the size and alignment of its storage. -/
def checkGlobal (machine : Machine) (pending : Initializers) (id : GlobalId) :
    Except Fault (Option (GlobalId × Nat × Nat)) := do
  let entry ← machine.globals.entry id
  match entry.kind with
  | .varDecl _ =>
      let layout ← entry.layout
      match pending.lookup id with
      | some (some symbol) => machine.checkInitializer pending entry symbol
      | _ => .ok ()
      return some (id, layout)
  | .aliasDecl =>
      let (target, _) ← machine.globals.aliasTarget pending id entry
      machine.checkPlaced pending target
      return none

/-- Checks a module, and answers with the storage that its variables need. -/
def checkModule (machine : Machine) (unit : Module) :
    Except Fault (Initializers × List (GlobalId × Nat × Nat)) := do
  let pending ← machine.globals.initializers unit
  let layouts ← unit.globals.mapM (machine.checkGlobal pending)
  return (pending, layouts.filterMap (·))

/-- Hands out storage for variables, in order. -/
def reserve (layouts : List (GlobalId × Nat × Nat)) : Run (List (GlobalId × UInt64)) :=
  layouts.mapM fun (id, size, align) => do return (id, ← allocate size align)

def writeInitializer (address : UInt64) (entry : GlobalEntry) (symbol : Symbol) : Run Unit := do
  match entry.ty, symbol with
  | .int bits, .integer _ value => putScalar address (.varInt (.ofInt64 bits value))
  | .float, .floating _ value => putScalar address (.float value.toSingle)
  | .double, .floating _ value => putScalar address (.double value)
  | .float80, .floating _ value => putScalar address (.float80 (.ofDouble value))
  | .pointer, .null => putPointer address 0
  | .pointer, .global target =>
      let machine ← get
      let (target, _) ← Run.ofExcept (machine.globals.follow entry target)
      putPointer address (← Run.ofExcept (machine.resolve target))
  | .pointer, .function _ code => putPointer address code
  | ty, .zero _ => writeBytes address (List.replicate ty.byteSize 0)
  | _, _ => throw ((← get).unfit entry symbol)

/-- Gives an alias the place of the variable it stands for; a variable is left alone. -/
def bindAlias (pending : Initializers) (id : GlobalId) : Run Unit := do
  let machine ← get
  let entry ← Run.ofExcept (machine.globals.entry id)
  if entry.kind.isAlias then
    let (target, _) ← Run.ofExcept (machine.globals.aliasTarget pending id entry)
    let location ← Run.ofExcept (machine.resolve target)
    modify (·.bind id location)

/-- Writes the initializer of a variable, if it has one; an alias is left alone. -/
def materialise (id : GlobalId) : Run Unit := do
  let machine ← get
  let entry ← Run.ofExcept (machine.globals.entry id)
  match entry.kind.isAlias, entry.value? with
  | false, some symbol => writeInitializer (← Run.ofExcept (machine.resolve id)) entry symbol
  | _, _ => return

/-- Records places, resolves entries and writes initializers, once all storage is there. -/
def commit (unit : Module) (pending : Initializers) (places : List (GlobalId × UInt64)) :
    Run Unit := do
  places.forM fun (id, location) => modify (·.bind id location)
  unit.globals.forM fun id => initialise id unit.symbols
  unit.globals.forM (bindAlias pending)
  unit.globals.forM materialise

/-- Places every global of a module in native memory and writes its initializer. -/
def finalize (unit : Module) : Run Unit := do
  let (pending, layouts) ← Run.ofExcept ((← get).checkModule unit)
  commit unit pending (← reserve layouts)

end Machine

end IrMachine
