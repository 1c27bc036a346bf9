import IrMachine.Number.Text
import IrMachine.Text.Hex

/-!
# Addresses

An operand in pointer position is one of five things: a native address, a global, a place in a
managed buffer, a primitive of the host in a box, or a place in a foreign object. Globals, buffers
and objects are named by their position in the machine's tables, so two addresses are the same
exactly when they name the same thing at the same offset.
-/

namespace IrMachine

structure GlobalId where
  index : Nat
deriving DecidableEq, Inhabited

structure BufferId where
  index : Nat
deriving DecidableEq, Inhabited

structure ObjectId where
  index : Nat
deriving DecidableEq, Inhabited

/-- A primitive of the host that stands in pointer position. -/
inductive Boxed where
  | int (value : Int64)
  | float (value : Double)
  | bool (value : Bool)
deriving DecidableEq, Inhabited

namespace Boxed

def text : Boxed → String
  | int value => toString value.toInt
  | float value => value.text
  | bool value => toString value

def describe : Boxed → String
  | int value => "Int(" ++ toString value.toInt ++ ")"
  | float value => "Float(" ++ value.describe ++ ")"
  | bool value => "Bool(" ++ toString value ++ ")"

/-- Equality of primitives; floating point numbers compare numerically. -/
def equal : Boxed → Boxed → Bool
  | float x, float y => x.equal y
  | x, y => x == y

end Boxed

/-- Which of the five representations an address has. -/
inductive AddressKind where
  | native | global | buffer | boxed | object
deriving DecidableEq, Inhabited

namespace AddressKind

def all : List AddressKind := [native, global, buffer, boxed, object]

/-- The key under which a load site remembers the kind. -/
def key : AddressKind → UInt64
  | native => 1
  | global => 2
  | buffer => 3
  | boxed => 4
  | object => 5

/-- The name of the kind in faults. -/
def name : AddressKind → String
  | native => "native"
  | global => "global"
  | buffer => "virtual allocation"
  | boxed => "boxed primitive"
  | object => "foreign object"

end AddressKind

/-- An operand in pointer position. -/
inductive Address where
  | native (location : UInt64)
  | global (id : GlobalId)
  | buffer (id : BufferId) (offset : Int64)
  | boxed (value : Boxed)
  | object (id : ObjectId) (offset : Int64)
deriving DecidableEq, Inhabited

namespace Address

def kind : Address → AddressKind
  | native _ => .native
  | global _ => .global
  | buffer .. => .buffer
  | boxed _ => .boxed
  | object .. => .object

/-- Only the native address zero is null. -/
def isNull : Address → Bool
  | native location => location == 0
  | _ => false

/-- The foreign object that an address points into, and how far. -/
def object? : Address → Option (ObjectId × Int64)
  | object id offset => some (id, offset)
  | _ => none

/-- Equality as a program sees it: boxed floating point numbers compare numerically. -/
def equal : Address → Address → Bool
  | boxed x, boxed y => x.equal y
  | x, y => x == y

end Address

end IrMachine
