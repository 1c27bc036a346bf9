import IrMachine.Address.Basic
import IrMachine.Scalar

/-!
# Values

What an instruction consumes and produces: a scalar, an address, or nothing.
-/

namespace IrMachine

/-- A value of the interpreted program. -/
inductive Value where
  | scalar (value : Scalar)
  | address (value : Address)
  | void
deriving DecidableEq, Inhabited

namespace Value

/-- The name of a value's type in faults; an address is named by its representation. -/
def typeName : Value → String
  | scalar value => value.typeName
  | address value => value.kind.name ++ " address"
  | void => "void"

def toInt64? : Value → Option Int64
  | scalar value => value.toInt64?
  | _ => none

def toVarInt? (bits : Nat) : Value → Option VarInt
  | scalar value => value.toVarInt? bits
  | _ => none

def address? : Value → Option Address
  | address value => some value
  | _ => none

def equal : Value → Value → Bool
  | scalar x, scalar y => x.equal y
  | address x, address y => x.equal y
  | void, void => true
  | _, _ => false

/-- The globals that a value keeps in existence. -/
def globals : Value → List GlobalId
  | address (.global id) => [id]
  | _ => []

/-- The foreign objects that a value refers to. -/
def objects : Value → List ObjectId
  | address (.object id _) => [id]
  | _ => []

end Value

end IrMachine
