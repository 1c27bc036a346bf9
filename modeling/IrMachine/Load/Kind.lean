import IrMachine.Fault
import IrMachine.Scalar

/-!
# Kinds of loads

What a load site produces: a scalar, an address, or an aggregate, which is handed out by reference.
-/

namespace IrMachine

/-- What a load site produces. -/
inductive LoadKind where
  | scalar (kind : ScalarKind)
  | address
  | aggregate
deriving DecidableEq, Inhabited

namespace LoadKind

/-- The kind of load for values of a type. There are no values of `void` and `i0` to load. -/
def ofTy (ty : Ty) : Except Fault LoadKind :=
  match ty with
  | .void | .int 0 => .error (.operand "load" (.notLoadable ty))
  | .int bits =>
      .ok (.scalar ((IntWidth.ofBits? bits).elim (.varInt bits) ScalarKind.int))
  | .float => .ok (.scalar .float)
  | .double => .ok (.scalar .double)
  | .float80 => .ok (.scalar .float80)
  | .function .. => .ok (.scalar .function)
  | .pointer => .ok .address
  | .struct .. | .array .. => .ok .aggregate

def ty : LoadKind → Ty
  | scalar kind => kind.ty
  | address | aggregate => .pointer

def byteSize (kind : LoadKind) : Nat := kind.ty.byteSize

/-- Whether foreign objects answer this kind of read. -/
def readsObjects : LoadKind → Bool
  | scalar (.varInt _) | scalar .function | address => true
  | _ => false

def text : LoadKind → String
  | aggregate => "struct"
  | kind => kind.ty.text

def describe : LoadKind → String
  | scalar (.int width) => "FixedInt(I" ++ toString width.bits ++ ")"
  | scalar (.varInt bits) => "IVarBit(" ++ toString bits ++ ")"
  | scalar .float => "Float"
  | scalar .double => "Double"
  | scalar .float80 => "Float80"
  | scalar .function => "Function"
  | address => "Address"
  | aggregate => "Struct"

end LoadKind

end IrMachine
