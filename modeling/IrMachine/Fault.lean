import IrMachine.Address.Basic
import IrMachine.Ty.Basic

/-!
# Faults

Everything that can go wrong, as causes with their data. The wording of each cause stands in one
`message` function per type, and `Fault.severity` separates the faults that end the current
execution from those that only reject a module or a configuration.
-/

namespace IrMachine

/-- Why an operand is illegal for an operation. -/
inductive OperandCause where
  /-- A foreign reference was moved away from the object's start. -/
  | displaced (offset : Int64)
  /-- An access outside a managed buffer. -/
  | outsideBuffer (length : Nat) (offset : Int64) (size : Nat)
  /-- A boxed primitive that is not an integer is no address. -/
  | notAnAddress (value : Boxed)
  /-- A global has to be resolved before arithmetic. -/
  | unresolved (global : String)
  /-- The representation never has a native location. -/
  | noNativeLocation (kind : AddressKind)
  /-- The load is not defined for the representation. -/
  | noLoadRule (kind : AddressKind)
  /-- There are no values of the type to load. -/
  | notLoadable (ty : Ty)
  /-- A foreign read answered with something other than an integer. -/
  | notAnInteger (typeName : String)
  /-- A call site was given the wrong number of arguments. -/
  | argumentCount (declared supplied : Nat)
  /-- A debug frame has no such slot. -/
  | outsideFrame (slot size : Nat)
  /-- Any other cause, in words. -/
  | other (message : String)
deriving DecidableEq

/-- Why a global or its module is rejected. -/
inductive LifecycleCause where
  | renamed (name : String)
  | alreadyInitialised
  | slotOutside (slot : Nat)
  | tooLarge (ty : Ty)
  /-- The initializer, given by its text, is not one for the type. -/
  | unfit (initializer : String) (ty : Ty)
  | dangling
  /-- An alias whose initializer is not a global. -/
  | aliasOfNothing
  /-- A chain of aliases that is too long or does not end. -/
  | aliasUnending
  /-- Any other cause, in words. -/
  | other (message : String)
deriving DecidableEq

inductive ConfigCause where
  | noMemory
  | noStack
  /-- The memory image would leave the 64-bit address space. -/
  | imageOverflow (base : UInt64)
  /-- The text is not a configuration. -/
  | malformed
  /-- Any other cause, in words. -/
  | other (message : String)
deriving DecidableEq

/-- A message that a foreign object does not answer. -/
inductive MessageCause where
  | read
  | readIndex (index size : Nat)
  | execute
  /-- Any other message, by name. -/
  | other (message : String)
deriving DecidableEq

/-- Why a value does not cross the foreign boundary. -/
inductive ConversionCause where
  | tooWide (bits : Nat)
  | displaced (offset : Int64)
  | buffer
  /-- A foreign value, given by the name of its kind, is not one of the type. -/
  | noConversion (kind : String) (ty : Ty)
  /-- Any other cause, in words. -/
  | other (message : String)
deriving DecidableEq

/-- What goes wrong at the foreign boundary. -/
inductive ForeignFault where
  | unsupportedMessage (cause : MessageCause)
  | unsupportedType (cause : ConversionCause)
  | arity (expected actual : Nat)
  /-- Foreign calls were nested more deeply than the run allows. -/
  | nesting
  /-- Foreign code was abandoned at a request that was abandoned itself. -/
  | overflow
deriving DecidableEq

/-- A fault of the machine. -/
inductive Fault where
  | operand (operation : String) (cause : OperandCause)
  | foreign (fault : ForeignFault)
  /-- A call target, given by the name of its type, that is not a foreign reference. -/
  | notCallable (typeName : String)
  | memory (address : UInt64) (size : Nat)
  | unresolvedGlobal (name : String)
  | lifecycle (name : String) (cause : LifecycleCause)
  | config (cause : ConfigCause)
  /-- A sum of addresses is not a word, and the operation is abandoned where it stands. -/
  | overflow
deriving DecidableEq

/-- Whether a fault ends the current execution. -/
inductive Severity where
  | fatal
  | recoverable
deriving DecidableEq

def OperandCause.message : OperandCause → String
  | displaced offset => "Pointee must be unmodified (offset " ++ toString offset.toInt ++ ")"
  | outsideBuffer length offset size =>
      toString length ++ " bytes at offset " ++ toString offset.toInt ++
        " outside allocation of " ++ toString size ++ " bytes"
  | notAnAddress value => "Cannot access memory with address: " ++ value.text
  | unresolved global => "global " ++ global ++ " must be resolved to a native address first"
  | noNativeLocation kind => "a " ++ kind.name ++ " address has no native location"
  | noLoadRule kind => "not defined for a " ++ kind.name ++ " address"
  | notLoadable ty => "cannot load a value of type " ++ ty.text
  | notAnInteger typeName => "foreign read produced " ++ typeName
  | argumentCount declared supplied =>
      "call site declares " ++ toString declared ++ " arguments but " ++ toString supplied ++
        " were supplied"
  | outsideFrame slot size =>
      "slot " ++ toString slot ++ " outside a frame of " ++ toString size ++ " slots"
  | other message => message

def LifecycleCause.message : LifecycleCause → String
  | renamed name => "cannot rename to " ++ name
  | alreadyInitialised => "already initialised"
  | slotOutside slot => "initializer slot " ++ toString slot ++ " is outside the symbol table"
  | tooLarge ty => "type " ++ ty.text ++ " is too large to allocate"
  | unfit initializer ty => "initializer " ++ initializer ++ " does not fit type " ++ ty.text
  | dangling => "initializer names a global that no longer exists"
  | aliasOfNothing => "alias must name a global"
  | aliasUnending => "alias chain does not end in a variable"
  | other message => message

def ConfigCause.message : ConfigCause → String
  | noMemory => "memory_size must be non-zero"
  | noStack => "stack_size must be non-zero"
  | imageOverflow base =>
      "memory image at " ++ Hex.marked base.toNat ++ " overflows the address space"
  | malformed => "malformed text"
  | other message => message

/-- The name of a message that was not answered. -/
def MessageCause.message : MessageCause → String
  | read => "READ"
  | readIndex index size => "READ index " ++ toString index ++ " of " ++ toString size
  | execute => "EXECUTE"
  | other message => message

def ConversionCause.message : ConversionCause → String
  | tooWide bits => "i" ++ toString bits ++ " does not fit a foreign integer"
  | displaced offset => "foreign reference displaced by " ++ toString offset.toInt ++ " bytes"
  | buffer => "virtual allocation cannot escape to foreign code"
  | noConversion kind ty => "cannot convert foreign " ++ kind ++ " to " ++ ty.text
  | other message => message

def ForeignFault.message : ForeignFault → String
  | unsupportedMessage cause => "unsupported message: " ++ cause.message
  | unsupportedType cause => "unsupported type: " ++ cause.message
  | arity expected actual =>
      "arity mismatch: expected " ++ toString expected ++ " arguments, got " ++ toString actual
  | nesting => "calls are nested too deeply"
  | overflow => "attempt to add with overflow"

namespace Fault

def message : Fault → String
  | operand operation cause => "illegal operand for " ++ operation ++ ": " ++ cause.message
  | foreign fault => "foreign call failed: " ++ fault.message
  | notCallable typeName =>
      "invalid arguments to call: " ++ typeName ++ " is not a foreign reference"
  | memory address size =>
      "memory fault: " ++ toString size ++ " bytes at " ++ Hex.marked address.toNat
  | unresolvedGlobal name => "global " ++ name ++ " has no native location"
  | lifecycle name cause => "global " ++ name ++ ": " ++ cause.message
  | config cause => "configuration error: " ++ cause.message
  | overflow => "attempt to add with overflow"

/-- Faults raised while executing are fatal; those of setting up a module or a configuration are
not. -/
def severity : Fault → Severity
  | operand .. | foreign .. | notCallable .. | memory .. | unresolvedGlobal .. | overflow => .fatal
  | lifecycle .. | config .. => .recoverable

def isFatal (fault : Fault) : Bool := fault.severity == .fatal

end Fault

end IrMachine
