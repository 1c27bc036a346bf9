import IrMachine.Fault
import IrMachine.Text.Quoted
import IrMachine.Ty.Layout

/-!
# Globals, symbols and modules

A module declares globals and lists symbols. A global's initializer is a one-based slot of that
list, looked up only when the whole module is known, because it may name a symbol that comes later.

An entry goes through two steps, each at most once: it is given a name, and its initializer is
resolved. Entries live in one table and are named by their position. An entry that nobody refers to
any more is taken out of the table for good, and a symbol that still names it is dangling.
-/

namespace IrMachine

inductive GlobalKind where
  /-- A variable with storage of its own. -/
  | varDecl (constant : Bool)
  /-- Another name for the storage of the global that the initializer names. -/
  | aliasDecl
deriving DecidableEq, Inhabited

/-- What an initializer slot can hold. -/
inductive Symbol where
  | integer (ty : Ty) (value : Int64)
  | floating (ty : Ty) (value : Double)
  | null
  | global (id : GlobalId)
  /-- A function that already has a place in native code. -/
  | function (name : String) (address : UInt64)
  | zero (ty : Ty)
deriving DecidableEq, Inhabited

inductive Resolution where
  | pending
  /-- Resolved, to no symbol if the declaration has no initializer. -/
  | resolved (symbol : Option Symbol)
deriving DecidableEq, Inhabited

/-- One declaration. -/
structure GlobalEntry where
  kind : GlobalKind
  ty : Ty
  /-- The declared alignment; zero asks for the natural one. -/
  alignment : Nat
  /-- The one-based slot of the initializer. -/
  slot : Option Nat
  /-- The name with its mark `@`, once there is one. -/
  named : Option String := none
  resolution : Resolution := .pending
deriving DecidableEq, Inhabited

/-- A named list of declarations and the symbols that their initializers choose from. -/
structure Module where
  name : String
  globals : List GlobalId := []
  symbols : List Symbol := []
deriving DecidableEq, Inhabited

namespace GlobalKind

def isAlias : GlobalKind → Bool
  | varDecl _ => false
  | aliasDecl => true

def describe : GlobalKind → String
  | varDecl constant => "Variable \x7b constant: " ++ toString constant ++ " \x7d"
  | aliasDecl => "Alias"

end GlobalKind

namespace GlobalEntry

/-- The name of an entry before it is given one. -/
def placeholder : String := "<anon>"

/-- A fresh declaration. The slot zero stands for no initializer. -/
def new (kind : GlobalKind) (ty : Ty) (alignment : Nat) (slot : Option Nat) : GlobalEntry :=
  { kind, ty, alignment, slot := slot.filter (0 < ·) }

def name (entry : GlobalEntry) : String := entry.named.getD placeholder

def isNamed (entry : GlobalEntry) : Bool := entry.named.isSome

def isInitialised (entry : GlobalEntry) : Bool := entry.resolution != .pending

def value? (entry : GlobalEntry) : Option Symbol :=
  match entry.resolution with
  | .pending => none
  | .resolved symbol => symbol

/-- A fault of the entry's own life. -/
def fault (entry : GlobalEntry) (cause : LifecycleCause) : Fault := .lifecycle entry.name cause

/-- Gives the entry its name; only the first time succeeds. -/
def setName (entry : GlobalEntry) (name : String) : Except Fault GlobalEntry :=
  match entry.named with
  | none => .ok { entry with named := some ("@" ++ name) }
  | some _ => .error (entry.fault (.renamed ("@" ++ name)))

/-- The symbol that resolving the entry would store. -/
def pendingInitializer (entry : GlobalEntry) (symbols : List Symbol) :
    Except Fault (Option Symbol) :=
  if entry.isInitialised then .error (entry.fault .alreadyInitialised)
  else
    match entry.slot with
    | none => .ok none
    | some slot =>
        match symbols[slot - 1]? with
        | some symbol => .ok (some symbol)
        | none => .error (entry.fault (.slotOutside slot))

def initialise (entry : GlobalEntry) (symbols : List Symbol) : Except Fault GlobalEntry :=
  (entry.pendingInitializer symbols).map fun symbol =>
    { entry with resolution := .resolved symbol }

/-- The size and alignment of a variable's storage. A variable takes at least one byte, so that
different variables have different places. -/
def layout (entry : GlobalEntry) : Except Fault (Nat × Nat) :=
  match entry.ty.size? with
  | none => .error (entry.fault (.tooLarge entry.ty))
  | some size =>
      .ok (max size 1, if entry.alignment = 0 then entry.ty.alignment else entry.alignment)

end GlobalEntry

/-- The entries of all globals ever declared; those that are gone leave a gap. -/
structure GlobalTable where
  entries : Array (Option GlobalEntry) := #[]
deriving DecidableEq, Inhabited

namespace GlobalTable

def get? (table : GlobalTable) (id : GlobalId) : Option GlobalEntry :=
  table.entries[id.index]?.join

/-- The entry of a global, which has to exist. -/
def entry (table : GlobalTable) (id : GlobalId) : Except Fault GlobalEntry :=
  match table.get? id with
  | some entry => .ok entry
  | none => .error (.lifecycle GlobalEntry.placeholder .dangling)

def declare (table : GlobalTable) (entry : GlobalEntry) : GlobalId × GlobalTable :=
  (⟨table.entries.size⟩, ⟨table.entries.push (some entry)⟩)

def set (table : GlobalTable) (id : GlobalId) (entry : GlobalEntry) : GlobalTable :=
  ⟨table.entries.setIfInBounds id.index (some entry)⟩

/-- Takes out every entry that is not among those still referred to. -/
def collect (table : GlobalTable) (referred : List GlobalId) : GlobalTable :=
  ⟨table.entries.mapIdx fun index entry => if ⟨index⟩ ∈ referred then entry else none⟩

def name (table : GlobalTable) (id : GlobalId) : String :=
  ((table.get? id).map GlobalEntry.name).getD GlobalEntry.placeholder

end GlobalTable

namespace Symbol

/-- The structural form of a symbol. A global is given by its name only, since it may name
itself. -/
def describe (table : GlobalTable) : Symbol → String
  | integer ty value => ty.text ++ " " ++ toString value.toInt
  | floating ty value => ty.text ++ " " ++ value.text
  | null => "ptr null"
  | global id =>
      match table.get? id with
      | some entry => "ptr " ++ entry.name
      | none => "ptr <dropped>"
  | function name address => "fn @" ++ name ++ " at " ++ Hex.marked address.toNat
  | zero ty => ty.text ++ " zeroinitializer"

/-- Whether a symbol can initialise a variable of a type. The type that a number was written with
does not matter. -/
def fits (ty : Ty) (symbol : Symbol) : Bool :=
  match ty, symbol with
  | _, zero _ => true
  | .int _, integer .. => true
  | .float, floating .. | .double, floating .. | .float80, floating .. => true
  | .pointer, null | .pointer, global _ | .pointer, function .. => true
  | _, _ => false

end Symbol

namespace GlobalEntry

def describeOption : Option String → String
  | none => "None"
  | some text => "Some(" ++ text ++ ")"

def describe (entry : GlobalEntry) (table : GlobalTable) (id : GlobalId) : String :=
  "GlobalEntry \x7b id: GlobalId(" ++ toString id.index ++ "), name: " ++
    Quoted.quote entry.name ++ ", kind: " ++ entry.kind.describe ++ ", ty: " ++
    entry.ty.describe ++ ", alignment: " ++ toString entry.alignment ++ ", initializer_slot: " ++
    describeOption (entry.slot.map toString) ++ ", value: " ++
    describeOption (entry.value?.map (Symbol.describe table)) ++ " \x7d"

end GlobalEntry

namespace Module

/-- Adds a symbol and answers with its one-based slot. -/
def addSymbol (unit : Module) (symbol : Symbol) : Nat × Module :=
  (unit.symbols.length + 1, { unit with symbols := unit.symbols ++ [symbol] })

def addGlobal (unit : Module) (id : GlobalId) : Module :=
  { unit with globals := unit.globals ++ [id] }

/-- The first global that was given a name. The mark `@` in front of the wanted name may be left
out. -/
def lookup? (unit : Module) (table : GlobalTable) (wanted : String) : Option GlobalId :=
  let wanted := match wanted.toList with
    | '@' :: rest => rest
    | chars => chars
  unit.globals.find? fun id =>
    match (table.get? id).bind GlobalEntry.named with
    | some name => name.toList.drop 1 == wanted
    | none => false

end Module

end IrMachine
