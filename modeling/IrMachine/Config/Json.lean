import IrMachine.Text.Hex

/-!
# Reading JSON text

A strict reader for the parts of JSON that a configuration consists of: unsigned numbers, truth
values and member names. Values that are of no interest are passed over, but still have to be
well-formed. Each function answers with what is left of the text, or with `none` where the text does
not fit.

A string that is passed over may hold unpaired surrogate escapes; a member name may not.
-/

namespace IrMachine.Json

def isBlank (c : Char) : Bool := c == ' ' || c == '\n' || c == '\t' || c == '\r'

def skipBlanks (text : List Char) : List Char := text.dropWhile isBlank

/-- The text after a given beginning. -/
def expect? : List Char → List Char → Option (List Char)
  | [], text => some text
  | c :: cs, d :: text => if c = d then expect? cs text else none
  | _ :: _, [] => none

/-- The code unit that four hexadecimal digits denote. -/
def codeUnit? (a b c d : Char) : Option Nat := Hex.toNat? [a, b, c, d]

/-- The character that follows a backslash, for the escapes of one character. -/
def simpleEscape? (c : Char) : Option Char :=
  match c with
  | '"' => some '"'
  | '\\' => some '\\'
  | '/' => some '/'
  | 'b' => some '\x08'
  | 'f' => some '\x0c'
  | 'n' => some '\n'
  | 'r' => some '\r'
  | 't' => some '\t'
  | _ => none

def isHighSurrogate (unit : Nat) : Bool := 0xD800 ≤ unit && unit < 0xDC00

def isLowSurrogate (unit : Nat) : Bool := 0xDC00 ≤ unit && unit < 0xE000

/-- The rest of a string whose opening quote has been read, decoded, and the text after it. -/
def stringRest? : List Char → Option (List Char × List Char)
  | '"' :: text => some ([], text)
  | '\\' :: 'u' :: a :: b :: c :: d :: text => do
      let unit ← codeUnit? a b c d
      if isLowSurrogate unit then none
      else if isHighSurrogate unit then
        match text with
        | '\\' :: 'u' :: a :: b :: c :: d :: text =>
            let low ← codeUnit? a b c d
            if isLowSurrogate low then
              let (tail, text) ← stringRest? text
              return (.ofNat (0x10000 + (unit - 0xD800) * 0x400 + (low - 0xDC00)) :: tail, text)
            else none
        | _ => none
      else
        let (tail, text) ← stringRest? text
        return (.ofNat unit :: tail, text)
  | '\\' :: c :: text => do
      let c ← simpleEscape? c
      let (tail, text) ← stringRest? text
      return (c :: tail, text)
  | c :: text => do
      if c.toNat < 0x20 then none
      let (tail, text) ← stringRest? text
      return (c :: tail, text)
  | [] => none

def skipString? : List Char → Option (List Char)
  | '"' :: text => some text
  | '\\' :: 'u' :: a :: b :: c :: d :: text =>
      if (codeUnit? a b c d).isSome then skipString? text else none
  | '\\' :: c :: text => if (simpleEscape? c).isSome then skipString? text else none
  | c :: text => if c.toNat < 0x20 then none else skipString? text
  | [] => none

def skipDigits? : List Char → Option (List Char)
  | c :: text => if c.isDigit then some (text.dropWhile Char.isDigit) else none
  | [] => none

/-- The text after an integer part: a zero, or digits that do not start with one. -/
def skipInteger? : List Char → Option (List Char)
  | '0' :: c :: text => if c.isDigit then none else some (c :: text)
  | '0' :: text => some text
  | text => skipDigits? text

def skipFraction? : List Char → Option (List Char)
  | '.' :: text => skipDigits? text
  | text => some text

def skipExponent? : List Char → Option (List Char)
  | c :: text =>
      if c = 'e' ∨ c = 'E' then
        match text with
        | '+' :: text | '-' :: text => skipDigits? text
        | text => skipDigits? text
      else some (c :: text)
  | [] => some []

def skipNumber? (text : List Char) : Option (List Char) := do
  let text := match text with
    | '-' :: text => text
    | text => text
  skipExponent? (← skipFraction? (← skipInteger? text))

mutual

def skipValue? : Nat → List Char → Option (List Char)
  | 0, _ => none
  | fuel + 1, text =>
      match text with
      | '"' :: text => skipString? text
      | '[' :: text =>
          match skipBlanks text with
          | ']' :: text => some text
          | text => skipItems? fuel text
      | '\x7b' :: text =>
          match skipBlanks text with
          | '\x7d' :: text => some text
          | text => skipMembers? fuel text
      | 't' :: text => expect? ['r', 'u', 'e'] text
      | 'f' :: text => expect? ['a', 'l', 's', 'e'] text
      | 'n' :: text => expect? ['u', 'l', 'l'] text
      | text => skipNumber? text

/-- The text after the items of an array, its closing bracket included. -/
def skipItems? : Nat → List Char → Option (List Char)
  | 0, _ => none
  | fuel + 1, text => do
      match skipBlanks (← skipValue? fuel text) with
      | ']' :: text => some text
      | ',' :: text => skipItems? fuel (skipBlanks text)
      | _ => none

/-- The text after the members of an object, its closing brace included. -/
def skipMembers? : Nat → List Char → Option (List Char)
  | 0, _ => none
  | fuel + 1, text => do
      let text ← expect? [':'] (skipBlanks (← skipString? (← expect? ['"'] text)))
      match skipBlanks (← skipValue? fuel (skipBlanks text)) with
      | '\x7d' :: text => some text
      | ',' :: text => skipMembers? fuel (skipBlanks text)
      | _ => none

end

/-- Steps enough to pass over any value at the start of the text: each opens a bracket or ends an
item. -/
def stepsFor (text : List Char) : Nat := 2 * text.length + 2

/-- A number without sign, fraction and exponent that fits 64 bits, and the text after it. -/
def unsigned? : List Char → Option (UInt64 × List Char)
  | '0' :: text => some (0, text)
  | text =>
      let digits := text.takeWhile Char.isDigit
      let value := digits.foldl (fun value c => value * 10 + (c.toNat - '0'.toNat)) 0
      if digits.isEmpty ∨ UInt64.size ≤ value then none
      else some (UInt64.ofNat value, text.dropWhile Char.isDigit)

def bool? : List Char → Option (Bool × List Char)
  | 't' :: text => (expect? ['r', 'u', 'e'] text).map (true, ·)
  | 'f' :: text => (expect? ['a', 'l', 's', 'e'] text).map (false, ·)
  | _ => none

end IrMachine.Json
