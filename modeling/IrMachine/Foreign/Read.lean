import IrMachine.Foreign.Convert

/-!
# Reads of foreign objects

A typed read sends an object a read of as many bytes as the type has, and converts the answer.
-/

namespace IrMachine

/-- A reader of values of one type. -/
structure ForeignRead where
  target : Ty
deriving DecidableEq, Inhabited

namespace ForeignRead

def byteSize (reader : ForeignRead) : Nat := reader.target.byteSize

/-- Reads at an offset into an object; the objects that there are afterwards come with it. -/
def execute (reader : ForeignRead) (objects : ObjectTable) (id : ObjectId) (offset : Int64) :
    Except Fault Value × ObjectTable :=
  match (objects.get id).read offset reader.byteSize with
  | .error fault => (.error (.foreign fault), objects)
  | .ok raw =>
      let (result, objects) := raw.accept objects reader.target
      (result.mapError .foreign, objects)

def describe (reader : ForeignRead) : String :=
  "ForeignRead \x7b target: " ++ reader.target.describe ++ ", byte_size: " ++
    toString reader.byteSize ++ " \x7d"

end ForeignRead

end IrMachine
