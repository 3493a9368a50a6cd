import LogicCircuit.Text.Printable

/-!
# Quoted texts

A text between double quotes, on one line. A quote and a backslash have a backslash before them.
NUL is written as a backslash and `0`, and tab, line feed and carriage return as a backslash and a
letter. Any other character that is not printable is written as its code point in hexadecimal, in
braces after a backslash and `u`.
-/

namespace LogicCircuit.Text

/-- The code point of a character between braces. -/
def codePoint (c : Char) : List Char :=
  ['\\', 'u', '\x7b'] ++ Nat.toDigits 16 c.toNat ++ ['\x7d']

/-- One character of a quoted text. -/
def quoteChar (c : Char) : List Char :=
  if c = '"' then ['\\', '"']
  else if c = '\\' then ['\\', '\\']
  else if c = '\x00' then ['\\', '0']
  else if c = '\t' then ['\\', 't']
  else if c = '\n' then ['\\', 'n']
  else if c = '\r' then ['\\', 'r']
  else if isPrintable c then [c]
  else codePoint c

/-- A text between quotes. -/
def quote (text : String) : String :=
  String.ofList ('"' :: text.toList.flatMap quoteChar ++ ['"'])

end LogicCircuit.Text
