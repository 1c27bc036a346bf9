import IrMachine.Foreign.Object

/-!
# Crossing the foreign boundary

`escape` turns a value of the program into its foreign form, `accept` turns a foreign answer into a
value of a declared type. Native and global addresses escape as pointers and a null pointer as the
foreign null; boxed primitives escape as themselves. A managed buffer has no identity outside and
cannot escape, and neither can a foreign reference that was moved.
-/

namespace IrMachine

def Address.escape (resolve : GlobalId → Except Fault UInt64) : Address → Except Fault Raw
  | native location => .ok (if location = 0 then .null else .pointer location)
  | global id => (resolve id).map .pointer
  | boxed (.int value) => .ok (.int value)
  | boxed (.float value) => .ok (.float value)
  | boxed (.bool value) => .ok (.bool value)
  | object id offset =>
      if offset = 0 then .ok (.object id)
      else .error (.foreign (.unsupportedType (.displaced offset)))
  | buffer .. => .error (.foreign (.unsupportedType .buffer))

def Scalar.escape : Scalar → Except Fault Raw
  | i1 value => .ok (.bool value)
  | i8 value => .ok (.int value.toInt64)
  | i16 value => .ok (.int value.toInt64)
  | i32 value => .ok (.int value.toInt64)
  | i64 value => .ok (.int value)
  | varInt value =>
      if value.width ≤ 64 then .ok (.int value.toInt64)
      else .error (.foreign (.unsupportedType (.tooWide value.width)))
  | float value => .ok (.float value.toDouble)
  | double value => .ok (.float value)
  | float80 value => .ok (.float value.toDouble)
  | function pointer => .ok (if pointer = 0 then .null else .pointer pointer)

/-- An integer in pointer position is an address. -/
def Raw.inPosition (ty : Ty) : Raw → Raw
  | int value => if ty = .pointer then .pointer value.toUInt64 else .int value
  | raw => raw

/-- The foreign form of a value that is declared with a type. -/
def Value.escape (resolve : GlobalId → Except Fault UInt64) (ty : Ty) : Value → Except Fault Raw
  | scalar value => value.escape.map (Raw.inPosition ty)
  | address value => value.escape resolve
  | void => .ok .null

namespace Raw

/-- The fault of a foreign value that is not one of a type. -/
def refuse (raw : Raw) (ty : Ty) : ForeignFault :=
  .unsupportedType (.noConversion raw.kindName ty)

def toInt64 (ty : Ty) : Raw → Except ForeignFault Int64
  | int value => .ok value
  | bool value => .ok (if value then 1 else 0)
  | float value => .ok value.toInt64
  | pointer location => .ok location.toInt64
  | null => .ok 0
  | raw => .error (raw.refuse ty)

def toDouble (ty : Ty) : Raw → Except ForeignFault Double
  | float value => .ok value
  | int value => .ok (.ofInt64 value)
  | bool value => .ok (.ofInt64 (if value then 1 else 0))
  | raw => .error (raw.refuse ty)

/-- A foreign value as an address. A string is put into a box of its own first. -/
def toAddress (objects : ObjectTable) : Raw → Address × ObjectTable
  | null => (.native 0, objects)
  | pointer location => (.native location, objects)
  | int value => (.boxed (.int value), objects)
  | float value => (.boxed (.float value), objects)
  | bool value => (.boxed (.bool value), objects)
  | object id => (.object id 0, objects)
  | string value =>
      let (id, objects) := objects.add (.box objects.describe (.string value))
      (.object id 0, objects)

def toFunction (ty : Ty) : Raw → Except ForeignFault Value
  | null => .ok (.scalar (.function 0))
  | pointer location => .ok (.scalar (.function location))
  | int value => .ok (.scalar (.function value.toUInt64))
  | object id => .ok (.address (.object id 0))
  | raw => .error (raw.refuse ty)

/-- A foreign value as an aggregate, which is always given by reference. -/
def toAggregate (ty : Ty) : Raw → Except ForeignFault Value
  | object id => .ok (.address (.object id 0))
  | pointer location => .ok (.address (.native location))
  | raw => .error (raw.refuse ty)

/-- A foreign value as an integer of a type's width. -/
def toInteger (bits : Nat) (raw : Raw) : Except ForeignFault Scalar :=
  (raw.toInt64 (.int bits)).map fun value =>
    match bits with
    | 1 => .i1 (value.toUInt64 &&& 1 != 0)
    | 8 => .i8 value.toInt8
    | 16 => .i16 value.toInt16
    | 32 => .i32 value.toInt32
    | 64 => .i64 value
    | bits => .varInt (.ofInt64 bits value)

/-- A foreign value as a value of a type, and the objects that there are afterwards. -/
def accept (objects : ObjectTable) (ty : Ty) (raw : Raw) :
    Except ForeignFault Value × ObjectTable :=
  match ty with
  | .void => (.ok .void, objects)
  | .int bits => ((raw.toInteger bits).map .scalar, objects)
  | .float => ((raw.toDouble ty).map fun value => .scalar (.float value.toSingle), objects)
  | .double => ((raw.toDouble ty).map fun value => .scalar (.double value), objects)
  | .float80 => ((raw.toDouble ty).map fun value => .scalar (.float80 (.ofDouble value)), objects)
  | .pointer =>
      let (address, objects) := raw.toAddress objects
      (.ok (.address address), objects)
  | .function .. => (raw.toFunction ty, objects)
  | .struct .. | .array .. => (raw.toAggregate ty, objects)

end Raw

end IrMachine
