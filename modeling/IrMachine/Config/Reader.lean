import IrMachine.Config.Basic
import IrMachine.Config.Json

/-!
# Reading a configuration

A configuration is written as a JSON object of its settings, each of which may be left out, or as
an array of them in their fixed order, of which later ones may be left out. Members with other names
are passed over; a setting that is given twice is an error, and so is a number with a sign, a
fraction or an exponent.
-/

namespace IrMachine.Config

open Json

inductive Setting where
  | memoryBase | memorySize | stackSize | inlineCaching
deriving DecidableEq

/-- The settings in the order of the array form. -/
def Setting.all : List Setting := [memoryBase, memorySize, stackSize, inlineCaching]

def Setting.name : Setting → String
  | memoryBase => "memory_base"
  | memorySize => "memory_size"
  | stackSize => "stack_size"
  | inlineCaching => "inline_caching"

/-- A configuration under construction, and the settings that were given. -/
structure Draft where
  config : Config := {}
  given : List Setting := []

def Draft.read? (draft : Draft) (setting : Setting) (text : List Char) :
    Option (Draft × List Char) :=
  if setting ∈ draft.given then none
  else
    let given := setting :: draft.given
    match setting with
    | .memoryBase => (unsigned? text).map fun (value, text) =>
        ({ config := { draft.config with memoryBase := value }, given }, text)
    | .memorySize => (unsigned? text).map fun (value, text) =>
        ({ config := { draft.config with memorySize := value }, given }, text)
    | .stackSize => (unsigned? text).map fun (value, text) =>
        ({ config := { draft.config with stackSize := value }, given }, text)
    | .inlineCaching => (bool? text).map fun (value, text) =>
        ({ config := { draft.config with inlineCaching := value }, given }, text)

/-- Reads the members of the object form, the closing brace included. -/
def members? : Nat → Draft → List Char → Option (Draft × List Char)
  | 0, _, _ => none
  | fuel + 1, draft, text => do
      let (name, text) ← stringRest? (← expect? ['"'] text)
      let text := skipBlanks (← expect? [':'] (skipBlanks text))
      let (draft, text) ←
        match Setting.all.find? fun setting => setting.name == String.ofList name with
        | some setting => draft.read? setting text
        | none => (skipValue? (stepsFor text) text).map (draft, ·)
      match skipBlanks text with
      | '\x7d' :: text => some (draft, text)
      | ',' :: text => members? fuel draft (skipBlanks text)
      | _ => none

/-- Reads the items of the array form, the closing bracket included. -/
def items? : List Setting → Draft → List Char → Option (Draft × List Char)
  | [], _, _ => none
  | setting :: rest, draft, text => do
      let (draft, text) ← draft.read? setting text
      match skipBlanks text with
      | ']' :: text => some (draft, text)
      | ',' :: text => items? rest draft (skipBlanks text)
      | _ => none

/-- Reads either form from the start of a text. -/
def draft? (text : List Char) : Option (Draft × List Char) :=
  match skipBlanks text with
  | '\x7b' :: text =>
      match skipBlanks text with
      | '\x7d' :: text => some ({}, text)
      | text => members? (text.length + 1) {} text
  | '[' :: text =>
      match skipBlanks text with
      | ']' :: text => some ({}, text)
      | text => items? Setting.all {} text
  | _ => none

/-- The configuration that a text describes. The whole text has to be read, and the configuration
has to be valid. -/
def ofJson (text : String) : Except Fault Config :=
  match draft? text.toList with
  | none => .error (.config .malformed)
  | some (draft, rest) =>
      if (skipBlanks rest).isEmpty then draft.config.validate.map fun _ => draft.config
      else .error (.config .malformed)

end IrMachine.Config
