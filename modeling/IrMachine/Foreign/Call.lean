import IrMachine.Address.Arithmetic
import IrMachine.Foreign.Convert

/-!
# Calls into foreign code

A call first looks at its target, then at the number of its arguments, and then escapes the
arguments from left to right; nothing has changed up to there. Only then does it cross the boundary:
the thread's stack pointer is set to the caller's before the callee runs and again after it,
whatever the callee did to it.

Foreign code may call back into the machine, so running it and calling it depend on one another.
`CallSite.execute` is stated for any way of invoking an object, and `Machine.invoke` ties the knot
with a bound on how deeply calls are nested.
-/

namespace IrMachine

/-- A result, the machine afterwards, and what foreign code reported on the way. -/
structure Reply (ε α : Type) where
  result : Except ε α
  machine : Machine
  notes : List Note := []

abbrev Invoke := ObjectId → List Raw → Machine → Reply ForeignFault Raw

/-- An argument of a call with its declared type. -/
abbrev Argument := Ty × Value

/-- What a call comes to, and the arguments that it had converted, in the order in which it did. -/
structure CallReply extends Reply Fault Value where
  asked : List Argument

/-- How values cross the boundary. -/
structure Conversions where
  /-- The foreign form of an argument, which may depend on those that the same call had converted
  before it. -/
  escape : Machine → List Argument → Argument → Except Fault Raw :=
    fun machine _ (ty, value) => value.escape machine.resolve ty
  /-- A foreign value as a value of a type. -/
  accept : ObjectTable → Ty → Raw → Except ForeignFault Value × ObjectTable := Raw.accept

/-- One call in the program. -/
structure CallSite where
  signature : Signature
  conversions : Conversions := {}

namespace CallSite

def arity (site : CallSite) : Nat := site.signature.params.length

def callee (target : Value) : Except Fault ObjectId :=
  match target with
  | .address address => do
      match ← address.unmovedObject "execute" with
      | some id => .ok id
      | none => .error (.notCallable target.typeName)
  | _ => .error (.notCallable target.typeName)

/-- The foreign forms of arguments, from left to right up to the first that has none, and all that
were converted by then; `asked` were converted before. -/
def escapeAll (site : CallSite) (machine : Machine) (asked : List Argument) :
    List Argument → Except Fault (List Raw) × List Argument
  | [] => (.ok [], asked)
  | argument :: rest =>
      match site.conversions.escape machine asked argument with
      | .error fault => (.error fault, asked ++ [argument])
      | .ok raw =>
          let (raws, asked) := site.escapeAll machine (asked ++ [argument]) rest
          (raws.map (raw :: ·), asked)

/-- The callee of a call and its arguments with their declared types, if the number is right. -/
def arguments (site : CallSite) (target : Value) (args : List Value) :
    Except Fault (ObjectId × List Argument) := do
  let id ← callee target
  if args.length = site.arity then
    return (id, site.signature.params.zip args)
  else
    .error (.operand "execute" (.argumentCount site.arity args.length))

/-- All that a call needs before it crosses the boundary, and the arguments that it has converted
for it. -/
def prepare (site : CallSite) (machine : Machine) (target : Value) (args : List Value) :
    Except Fault (ObjectId × List Raw) × List Argument :=
  match site.arguments target args with
  | .error fault => (.error fault, [])
  | .ok (id, args) =>
      let (raws, asked) := site.escapeAll machine [] args
      (raws.map (id, ·), asked)

/-- Invokes an object with the thread's stack pointer held at a value, before and after. -/
def cross (invoke : Invoke) (thread : ThreadId) (stack : Stack) (pointer : UInt64)
    (id : ObjectId) (args : List Raw) (machine : Machine) : Reply ForeignFault Raw :=
  let reply := invoke id args (machine.setStack thread { stack with pointer })
  { reply with machine := reply.machine.setStack thread { stack with pointer } }

/-- Turns the answer of a callee into the value of the call. -/
def conclude (site : CallSite) (reply : Reply ForeignFault Raw) : Reply Fault Value :=
  match reply.result with
  | .error fault => { reply with result := .error (.foreign fault) }
  | .ok raw =>
      let (value, objects) :=
        site.conversions.accept reply.machine.objects site.signature.result raw
      { reply with
        result := value.mapError .foreign
        machine := { reply.machine with objects } }

def execute (site : CallSite) (invoke : Invoke) (thread : ThreadId) (machine : Machine)
    (target : Value) (args : List Value) (pointer : UInt64) : CallReply :=
  match site.prepare machine target args with
  | (.error fault, asked) => { result := .error fault, machine, asked }
  | (.ok (id, raws), asked) =>
      match (Machine.stackFor thread).on machine with
      | (.error fault, machine) => { result := .error fault, machine, asked }
      | (.ok stack, machine) =>
          { site.conclude (cross invoke thread stack pointer id raws machine) with asked }

def describe (site : CallSite) : String :=
  "ForeignExecuteNode \x7b arg_types: [" ++ Ty.describeList site.signature.params ++
    "], return_type: " ++ site.signature.result.describe ++ " \x7d"

end CallSite

namespace Script

/-- Whether the machine abandoned a request, and with it the code that made it. -/
def abandoned {α : Type} : Except Fault α → Bool
  | .error .overflow => true
  | _ => false

/-- Runs foreign code on a thread. -/
def run (invoke : Invoke) (thread : ThreadId) : Script → Machine → Reply ForeignFault Raw
  | finish answer, machine => { result := answer, machine }
  | note entry next, machine =>
      let objects := entry.objects.foldl ObjectTable.mention machine.objects
      let reply := next.run invoke thread { machine with objects }
      { reply with notes := entry :: reply.notes }
  | stackPointer next, machine =>
      let found := (Machine.stackFor thread).on machine
      if abandoned found.1 then { result := .error .overflow, machine := found.2 }
      else (next (found.1.map Stack.pointer)).run invoke thread found.2
  | setStackPointer pointer next, machine =>
      let moved := (Machine.setStackPointer thread pointer).on machine
      if abandoned moved.1 then { result := .error .overflow, machine := moved.2 }
      else next.run invoke thread moved.2
  | call signature target args pointer next, machine =>
      let reply := CallSite.execute { signature } invoke thread machine target args pointer
      let rest : Reply ForeignFault Raw :=
        if abandoned reply.result then { result := .error .overflow, machine := reply.machine }
        else (next reply.result).run invoke thread reply.machine
      { rest with notes := reply.notes ++ rest.notes }
  | find name next, machine => (next (machine.objects.find? name)).run invoke thread machine
  | escape value ty next, machine =>
      (next (value.escape machine.resolve ty)).run invoke thread machine

end Script

namespace Machine

/-- Invokes an object on a thread, with calls nested at most `depth` deep. -/
def invoke (thread : ThreadId) : Nat → Invoke
  | 0 => fun _ _ machine => { result := .error .nesting, machine }
  | depth + 1 => fun id args machine =>
      ((machine.objects.get id).execute args).run (invoke thread depth) thread machine

end Machine

end IrMachine
