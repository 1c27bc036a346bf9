import IrMachine.Foreign.Object

/-!
# Foreign code as a list of actions

A plain way to write foreign code: some actions in a row, and then an answer. A call that fails does
not stop the code; the value of the last call that succeeded can be handed out as the answer.

Code may speak of objects by name. A name is looked up when the code comes to it, and so it may be
one that was given earlier in the same run.
-/

namespace IrMachine

variable {α : Type}

/-- A part of foreign code: known beforehand, or made from the object that goes by a name when the
code comes to it. -/
inductive Part (α : Type) where
  | known (value : α)
  | named (object : String) (make : ObjectId → α)

namespace Part

/-- Goes on with what the part stands for. Code that names no object fails. -/
def resolve (part : Part α) (next : α → Script) : Script :=
  match part with
  | known value => next value
  | named object make => .find object fun
      | some id => next (make id)
      | none => .finish (.error (.unsupportedType (.other ("no object named " ++ object))))

/-- Goes on with what several parts stand for, in order. -/
def resolveAll : List (Part α) → (List α → Script) → Script
  | [], next => next []
  | part :: rest, next =>
      part.resolve fun value => resolveAll rest fun values => next (value :: values)

end Part

/-- One action of foreign code. -/
inductive Action where
  /-- Report the arguments. -/
  | reportArguments
  /-- Report the thread's stack pointer. -/
  | reportStackPointer
  | setStackPointer (pointer : UInt64)
  /-- Call back into the machine, and report how that went. -/
  | call (signature : Signature) (target : Part Value) (args : List (Part Value))
      (pointer : UInt64)

/-- What foreign code answers in the end. -/
inductive Answer where
  | raw (value : Part Raw)
  /-- The argument at a position. -/
  | argument (index : Nat)
  /-- The sum of the arguments, which have to be integers; it wraps around. -/
  | sum
  /-- The value of the last successful call, or nothing, in its foreign form at a type. -/
  | last (ty : Ty)
  | fail (fault : ForeignFault)

/-- Foreign code: actions and an answer. -/
structure Body where
  actions : List Action := []
  answer : Answer := .raw (.known .null)

namespace Answer

def total : Int64 → List Raw → Except ForeignFault Raw
  | before, [] => .ok (.int before)
  | before, .int value :: rest => total (before + value) rest
  | _, _ => .error (.unsupportedType (.other "sum expects integers"))

/-- The end of foreign code with the given arguments and the value of its last successful call. -/
def script (args : List Raw) (found : Value) : Answer → Script
  | raw part => part.resolve fun value => .finish (.ok value)
  | argument index =>
      match args[index]? with
      | some value => .finish (.ok value)
      | none => .finish (.error (.unsupportedType (.other "no such argument")))
  | sum => .finish (total 0 args)
  | last ty => .escape found ty fun result =>
      .finish (result.mapError fun fault => .unsupportedType (.other fault.message))
  | fail fault => .finish (.error fault)

end Answer

namespace Body

/-- What remains to be done, given the arguments and the value of the last successful call. -/
def remaining (answer : Answer) (args : List Raw) : List Action → Value → Script
  | [], found => answer.script args found
  | .reportArguments :: rest, found =>
      .note (.arguments args) (remaining answer args rest found)
  | .reportStackPointer :: rest, found =>
      .stackPointer fun pointer => .note (.stackPointer pointer) (remaining answer args rest found)
  | .setStackPointer pointer :: rest, found =>
      .setStackPointer pointer (remaining answer args rest found)
  | .call signature target values pointer :: rest, found =>
      target.resolve fun target =>
        Part.resolveAll values fun values =>
          .call signature target values pointer fun result =>
            .note (.called result) (remaining answer args rest (result.toOption.getD found))

/-- Foreign code as the requests it makes. -/
def script (body : Body) (args : List Raw) : Script :=
  remaining body.answer args body.actions .void

end Body

end IrMachine
