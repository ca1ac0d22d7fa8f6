import KerberosLogin.Text.Hidden
import KerberosLogin.Text.Utf8

/-! # How values are shown

A value is shown to a developer, or in a log, in one fixed notation: quoted
text, lists of byte values, a name with its argument, and records with named
fields. A record that keeps fields back ends in two dots. The functions here
build that notation from parts that are shown already; each type says for
itself which parts it shows.
-/

namespace KerberosLogin

namespace Shown

/-- One character inside quotes. A hidden character is spelled by its code point
in the shortest lower-case hexadecimal form. -/
def quotedChar (char : Char) : List Char :=
  if char = '"' then ['\\', '"']
  else if char = '\\' then ['\\', '\\']
  else if char = '\n' then ['\\', 'n']
  else if char = '\r' then ['\\', 'r']
  else if char = '\t' then ['\\', 't']
  else if char = '\x00' then ['\\', '0']
  else if isHidden char then
    ['\\', 'u', '\x7b'] ++ Nat.toDigits 16 char.toNat ++ ['\x7d']
  else [char]

/-- Text between double quotes. -/
def quoted (text : String) : String :=
  String.ofList ('"' :: text.toList.flatMap quotedChar ++ ['"'])

/-- A name applied to one argument. -/
def call (name argument : String) : String :=
  name ++ "(" ++ argument ++ ")"

/-- An optional value. -/
def option {α : Type} (shown : α → String) : Option α → String
  | none => "None"
  | some value => call "Some" (shown value)

/-- The values of some bytes, in decimal. -/
def bytes (value : Bytes) : String :=
  "[" ++ ", ".intercalate (value.map fun byte => toString byte.toNat) ++ "]"

/-- A truth value. -/
def bool (value : Bool) : String :=
  if value then "true" else "false"

/-- The fields of a record, separated by commas. -/
def fields (parts : List (String × String)) : String :=
  ", ".intercalate (parts.map fun (name, shown) => name ++ ": " ++ shown)

/-- A record that shows all its fields. -/
def record (name : String) (parts : List (String × String)) : String :=
  name ++ " \x7b " ++ fields parts ++ " \x7d"

/-- A record that keeps some of its fields back. -/
def openRecord (name : String) (parts : List (String × String)) : String :=
  name ++ " \x7b " ++ fields parts ++ ", .. \x7d"

/-- Takes the place of a secret wherever one would be shown. -/
def redacted : String := "[REDACTED]"

end Shown

end KerberosLogin
