/-
Writing JSON without blanks.

A string is written with the short escapes for backspace, tab, line feed, form feed, carriage
return, quote and backslash; any other control character below U+0020 becomes a numeric escape,
and every other character stands for itself.
-/
import WebLogin.Text.Hex

namespace WebLogin

namespace Json

/-- How a character is written inside a string. -/
def escape (c : Char) : List Char :=
  if c = '"' then ['\\', '"']
  else if c = '\\' then ['\\', '\\']
  else if c = '\x08' then ['\\', 'b']
  else if c = '\t' then ['\\', 't']
  else if c = '\n' then ['\\', 'n']
  else if c = '\x0c' then ['\\', 'f']
  else if c = '\r' then ['\\', 'r']
  else if c.toNat < 0x20 then '\\' :: 'u' :: hexDigits 4 c.toNat
  else [c]

/-- Writes a string. -/
def quote (s : String) : String :=
  String.ofList ('"' :: s.toList.flatMap escape ++ ['"'])

/-- Writes a list of written values. -/
def printList (values : List String) : String :=
  "[" ++ ",".intercalate values ++ "]"

/-- Writes an object of names and written values. -/
def printObject (fields : List (String × String)) : String :=
  "\x7b" ++ ",".intercalate (fields.map fun (name, value) => quote name ++ ":" ++ value) ++ "\x7d"

/-- Writes a natural number. -/
def printNat (n : Nat) : String := toString n

/-- The name for no value. -/
def printNull : String := "null"

/-- Writes a value or the name for none. -/
def printOption {α : Type} (value : α → String) : Option α → String
  | none => printNull
  | some a => value a

end Json

end WebLogin
