import IrMachine.Machine

/-!
# Pointer arithmetic and native locations

Native addresses and boxed integers wrap around at 64 bits when they are moved; places in managed
buffers and foreign objects move their offset. A global has to be resolved before it is moved, and
boxed values other than integers cannot be moved at all.
-/

namespace IrMachine

namespace Address

/-- The address `delta` bytes further on. -/
def offsetBy (machine : Machine) (delta : Int64) : Address → Except Fault Address
  | native location => .ok (.native (location + delta.toUInt64))
  | buffer id offset => .ok (.buffer id (offset + delta))
  | object id offset => .ok (.object id (offset + delta))
  | boxed (.int value) => .ok (.native (value.toUInt64 + delta.toUInt64))
  | boxed value => .error (.operand "pointer arithmetic" (.notAnAddress value))
  | global id => .error (.operand "pointer arithmetic" (.unresolved (machine.nameOf id)))

/-- The native location that an address denotes. -/
def toNative (machine : Machine) : Address → Except Fault UInt64
  | native location => .ok location
  | global id => machine.resolve id
  | boxed (.int value) => .ok value.toUInt64
  | boxed value => .error (.operand "native access" (.notAnAddress value))
  | address => .error (.operand "native access" (.noNativeLocation address.kind))

/-- The foreign object that an address refers to. A reference that was moved is a fault of the
operation that needs the object. -/
def unmovedObject (operation : String) : Address → Except Fault (Option ObjectId)
  | object id offset =>
      if offset = 0 then .ok (some id) else .error (.operand operation (.displaced offset))
  | _ => .ok none

def text (machine : Machine) : Address → String
  | native location => Hex.marked location.toNat
  | global id => machine.nameOf id
  | buffer _ offset => "<managed>+" ++ toString offset.toInt
  | boxed value => "<boxed " ++ value.text ++ ">"
  | object _ offset => "<foreign>+" ++ toString offset.toInt

def describe (machine : Machine) : Address → String
  | native location => "Native(" ++ Hex.marked location.toNat ++ ")"
  | global id => "Global(" ++ machine.nameOf id ++ ")"
  | buffer id offset =>
      "VirtualAllocation(" ++ (machine.buffer id).describe ++ " + " ++ toString offset.toInt ++ ")"
  | boxed value => "BoxedPrimitive(" ++ value.describe ++ ")"
  | object id offset =>
      "ForeignObject(" ++ machine.objects.describe id ++ " + " ++ toString offset.toInt ++ ")"

end Address

def Value.text (machine : Machine) : Value → String
  | scalar value => value.text
  | address value => "ptr " ++ value.text machine
  | void => "void"

end IrMachine
