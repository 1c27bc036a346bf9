import IrMachine.Fault
import IrMachine.Value

/-!
# Debug frames

Values of source variables, kept in the slots of a frame beside the program's own values.
-/

namespace IrMachine

structure SourceSymbol where
  name : String
  line : Option Nat := none
deriving DecidableEq, Inhabited

/-- The name of a source variable, with its line if that is known. -/
def SourceSymbol.text (symbol : SourceSymbol) : String :=
  match symbol.line with
  | some line => symbol.name ++ ":" ++ toString line
  | none => symbol.name

/-- Who can interpret a debug value. -/
inductive DebugProvider where
  | typed (ty : Ty)
  | foreign
  | unavailable
deriving DecidableEq, Inhabited

structure DebugValue where
  symbol : SourceSymbol
  provider : DebugProvider
  value : Value
deriving DecidableEq, Inhabited

/-- The debug values of one frame. -/
structure DebugFrame where
  slots : Array (Option DebugValue)
deriving DecidableEq, Inhabited

namespace DebugFrame

def new (size : Nat) : DebugFrame := ⟨Array.replicate size none⟩

def size (frame : DebugFrame) : Nat := frame.slots.size

def get? (frame : DebugFrame) (slot : Nat) : Option DebugValue := frame.slots[slot]?.join

def write (frame : DebugFrame) (slot : Nat) (value : DebugValue) : Except Fault DebugFrame :=
  if slot < frame.size then .ok ⟨frame.slots.setIfInBounds slot (some value)⟩
  else .error (.operand "debug frame write" (.outsideFrame slot frame.size))

/-- The globals that the values of a frame keep in existence. -/
def globals (frame : DebugFrame) : List GlobalId :=
  frame.slots.toList.flatMap fun slot => slot.elim [] (·.value.globals)

end DebugFrame

end IrMachine
