import IrMachine.Fault
import IrMachine.Foreign.Raw
import IrMachine.Value

/-!
# Foreign objects

Objects outside the interpreter's memory answer a small set of messages: a sized read, a call, and
four queries. An object that says nothing about a message refuses it, and answers every query with
no.

Foreign code that runs during a call is a `Script`: a tree of requests to the machine, each followed
by what the code does with the answer. It may look at or move the stack pointer of the thread it
runs on, find objects by name, and call back into the machine; what else it does is its own
business.

Objects may go by names. One that is spoken of without having a name is given the next of `#0`, `#1`
and so on, so that it can be referred to from then on.
-/

namespace IrMachine

structure Signature where
  params : List Ty
  result : Ty
deriving DecidableEq, Inhabited

/-- Something that foreign code reports about its run. -/
inductive Note where
  | arguments (values : List Raw)
  | stackPointer (found : Except Fault UInt64)
  | called (result : Except Fault Value)

/-- The objects that a report speaks of, in order. -/
def Note.objects : Note → List ObjectId
  | arguments values => values.flatMap Raw.objects
  | called (.ok value) => value.objects
  | _ => []

/-- What foreign code does in the course of one call. -/
inductive Script where
  /-- Answer the call. -/
  | finish (answer : Except ForeignFault Raw)
  /-- Report something and go on. From then on the objects in the report have names. -/
  | note (entry : Note) (next : Script)
  /-- Look at the thread's stack pointer. -/
  | stackPointer (next : Except Fault UInt64 → Script)
  /-- Move the thread's stack pointer, if the thread can have a stack. -/
  | setStackPointer (pointer : UInt64) (next : Script)
  /-- Call a foreign object through the machine, with a stack pointer of its own. -/
  | call (signature : Signature) (target : Value) (args : List Value) (pointer : UInt64)
      (next : Except Fault Value → Script)
  /-- Find the object that goes by a name. -/
  | find (name : String) (next : Option ObjectId → Script)
  /-- Ask how a value looks from outside. -/
  | escape (value : Value) (ty : Ty) (next : Except Fault Raw → Script)

/-- A foreign object, by the answers it gives. -/
structure ForeignObject where
  /-- The structural form of the object. -/
  text : String
  /-- Answers a read of a number of bytes at an offset. -/
  read : Int64 → Nat → Except ForeignFault Raw := fun _ _ => .error (.unsupportedMessage .read)
  /-- Answers a call. -/
  execute : List Raw → Script := fun _ => .finish (.error (.unsupportedMessage .execute))
  isBoxed : Bool := false
  isExecutable : Bool := false
  isNull : Bool := false
  hasSize : Bool := false

namespace ForeignObject

def null : ForeignObject := { text := "ForeignNull", isNull := true }

/-- A value in a box, which can only be read as a whole; `object` describes other objects. -/
def box (object : ObjectId → String) (value : Raw) : ForeignObject where
  text := "ForeignBox(" ++ value.describe object ++ ")"
  read offset _ := if offset = 0 then .ok value else .error (.unsupportedMessage .read)
  isBoxed := true

/-- The answer of an array to a read of `size` bytes at a byte offset: the element with the number
of whole steps of `size` that fit below the offset. -/
def readElement (elements : List Raw) (offset : Int64) (size : Nat) : Except ForeignFault Raw :=
  if size = 0 ∨ offset < 0 then .error (.unsupportedMessage .read)
  else
    let index := offset.toInt.toNat / size
    match elements[index]? with
    | some element => .ok element
    | none => .error (.unsupportedMessage (.readIndex index elements.length))

/-- An array that is read element by element; `object` describes other objects. -/
def array (object : ObjectId → String) (elements : List Raw) : ForeignObject where
  text := "ForeignArray \x7b elements: [" ++
    ", ".intercalate (elements.map (Raw.describe object)) ++ "] \x7d"
  read := readElement elements
  hasSize := true

/-- Code that takes a fixed number of arguments. -/
def function (name : String) (arity : Nat) (body : List Raw → Script) : ForeignObject where
  text := "ForeignFunction(" ++ name ++ "/" ++ toString arity ++ ")"
  execute args :=
    if args.length = arity then body args else .finish (.error (.arity arity args.length))
  isExecutable := true

end ForeignObject

/-- The foreign objects that the machine has met, by identity, and the names they go by. -/
structure ObjectTable where
  objects : Array ForeignObject := #[]
  /-- The names in use, each for one object. -/
  names : List (String × ObjectId) := []
  /-- How many names were made up for objects without one. -/
  coined : Nat := 0

namespace ObjectTable

/-- The object with an identity; one that the machine has not met refuses everything. -/
def get (table : ObjectTable) (id : ObjectId) : ForeignObject :=
  table.objects.getD id.index { text := "" }

def add (table : ObjectTable) (object : ForeignObject) : ObjectId × ObjectTable :=
  (⟨table.objects.size⟩, { table with objects := table.objects.push object })

/-- Lets an object answer differently from now on. -/
def replace (table : ObjectTable) (id : ObjectId) (object : ForeignObject) : ObjectTable :=
  { table with objects := table.objects.setIfInBounds id.index object }

def describe (table : ObjectTable) (id : ObjectId) : String := (table.get id).text

def find? (table : ObjectTable) (name : String) : Option ObjectId := table.names.lookup name

def name? (table : ObjectTable) (id : ObjectId) : Option String :=
  (table.names.find? (·.2 == id)).map (·.1)

/-- Lets an object go by a name, which no other object goes by any more. -/
def giveName (table : ObjectTable) (name : String) (id : ObjectId) : ObjectTable :=
  { table with names := (name, id) :: table.names.filter (·.1 != name) }

/-- Speaks of an object. One that has no name is given the next one. -/
def mention (table : ObjectTable) (id : ObjectId) : ObjectTable :=
  match table.name? id with
  | some _ => table
  | none =>
      { table.giveName ("#" ++ toString table.coined) id with coined := table.coined + 1 }

@[simp] theorem name?_giveName (table : ObjectTable) (name : String) (id : ObjectId) :
    (table.giveName name id).name? id = some name := by simp [name?, giveName]

@[simp] theorem find?_giveName (table : ObjectTable) (name : String) (id : ObjectId) :
    (table.giveName name id).find? name = some id := by simp [find?, giveName]

/-- An object that was spoken of has a name. -/
theorem isSome_name?_mention (table : ObjectTable) (id : ObjectId) :
    ((table.mention id).name? id).isSome := by
  unfold mention
  cases found : table.name? id with
  | some name => simp [found]
  | none => simp [name?, giveName]

end ObjectTable

end IrMachine
