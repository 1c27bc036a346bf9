import IrMachine.Text.Hex
import IrMachine.Text.Printable

/-!
# Quoted text

Dumps write strings between double quotes. Quotes, backslashes and the common control characters
have short escapes; any other character that is not printable is written by its code point.
-/

namespace IrMachine.Quoted

def escape (c : Char) : String :=
  if c = '"' then "\\\""
  else if c = '\\' then "\\\\"
  else if c = '\n' then "\\n"
  else if c = '\r' then "\\r"
  else if c = '\t' then "\\t"
  else if c = '\x00' then "\\0"
  else if Printable.isPrintable c then String.singleton c
  else "\\u\x7b" ++ Hex.ofNat c.toNat ++ "\x7d"

def quote (text : String) : String := "\"" ++ String.join (text.toList.map escape) ++ "\""

end IrMachine.Quoted
