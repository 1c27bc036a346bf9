import IrMachine.Address.Arithmetic

/-!
# Queries about foreign references

Four yes-or-no questions. Anything that is not a foreign reference answers no; a foreign reference
that was moved is a fault.
-/

namespace IrMachine

inductive ForeignQuery where
  | isBoxed | isExecutable | isNull | hasSize
deriving DecidableEq, Inhabited

namespace ForeignQuery

def all : List ForeignQuery := [isBoxed, isExecutable, isNull, hasSize]

def name : ForeignQuery → String
  | isBoxed => "is_boxed"
  | isExecutable => "is_executable"
  | isNull => "is_null"
  | hasSize => "has_size"

def ask (query : ForeignQuery) (object : ForeignObject) : Bool :=
  match query with
  | isBoxed => object.isBoxed
  | isExecutable => object.isExecutable
  | isNull => object.isNull
  | hasSize => object.hasSize

def execute (query : ForeignQuery) (objects : ObjectTable) : Value → Except Fault Bool
  | .address address =>
      (address.unmovedObject query.name).map fun found =>
        found.elim false fun id => query.ask (objects.get id)
  | _ => .ok false

end ForeignQuery

end IrMachine
