import KernelForge.Text.Combining
import KernelForge.Text.Unprintable

/-!
# Quoted text and texts of values

Messages show a string between double quotes. Quotes and backslashes take a backslash, the common
controls have letters, and a character that cannot be seen, or that would merge with the one before
it, is written by its code point in braces.

Structured values are lists between brackets, records as a name with named fields between braces, maps
as pairs between braces, and optional values.
-/

namespace KernelForge.Text

/-- Lower-case hexadecimal digits without leading zeros. -/
def hexDigits (n : Nat) : List Char := Nat.toDigits 16 n

/-- The form of one character between quotes. -/
def escape (c : Char) : List Char :=
  if c = '\x00' then ['\\', '0']
  else if c = '\t' then ['\\', 't']
  else if c = '\r' then ['\\', 'r']
  else if c = '\n' then ['\\', 'n']
  else if c = '\\' || c = '"' then ['\\', c]
  else if isCombining c || isUnprintable c then
    ['\\', 'u', Char.ofNat 0x7b] ++ hexDigits c.toNat ++ [Char.ofNat 0x7d]
  else [c]

/-- A string between double quotes. -/
def quoted (text : String) : String :=
  String.ofList ('"' :: text.toList.flatMap escape ++ ['"'])

/-- Items between square brackets, with a comma and a blank between them. -/
def listText (items : List String) : String :=
  "[" ++ ", ".intercalate items ++ "]"

/-- A record: its name, then its fields in order. -/
def recordText (name : String) (fields : List (String × String)) : String :=
  if fields.isEmpty then name
  else name ++ " \x7b " ++ ", ".intercalate (fields.map fun f => f.1 ++ ": " ++ f.2) ++ " \x7d"

/-- A map: pairs of key and value between braces. -/
def mapText (pairs : List (String × String)) : String :=
  "\x7b" ++ ", ".intercalate (pairs.map fun p => p.1 ++ ": " ++ p.2) ++ "\x7d"

/-- A value that may be missing. -/
def optionText : Option String → String
  | none => "None"
  | some text => "Some(" ++ text ++ ")"

/-- A truth value. -/
def boolText (b : Bool) : String := if b then "true" else "false"

end KernelForge.Text
