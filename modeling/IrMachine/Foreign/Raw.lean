import IrMachine.Address.Basic
import IrMachine.Text.Quoted

/-!
# Raw foreign values

A value in the form in which it crosses the foreign boundary.
-/

namespace IrMachine

/-- A value as foreign code sees it. -/
inductive Raw where
  | null
  | bool (value : Bool)
  | int (value : Int64)
  | float (value : Double)
  | string (value : String)
  /-- A native address. -/
  | pointer (location : UInt64)
  | object (id : ObjectId)
deriving DecidableEq, Inhabited

namespace Raw

def kindName : Raw → String
  | null => "null"
  | bool _ => "bool"
  | int _ => "int"
  | float _ => "float"
  | string _ => "string"
  | pointer _ => "pointer"
  | object _ => "object"

def objects : Raw → List ObjectId
  | object id => [id]
  | _ => []

/-- Equality as foreign code sees it: floating point numbers compare numerically and objects by
identity. -/
def equal : Raw → Raw → Bool
  | float x, float y => x.equal y
  | x, y => x == y

def describe (object : ObjectId → String) : Raw → String
  | null => "Null"
  | bool value => "Bool(" ++ toString value ++ ")"
  | int value => "Int(" ++ toString value.toInt ++ ")"
  | float value => "Float(" ++ value.describe ++ ")"
  | string value => "String(" ++ Quoted.quote value ++ ")"
  | pointer location => "Pointer(" ++ toString location.toNat ++ ")"
  | .object id => "Object(" ++ object id ++ ")"

end Raw

end IrMachine
