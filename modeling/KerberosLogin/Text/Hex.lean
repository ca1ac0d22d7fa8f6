import KerberosLogin.Text.Utf8

/-! # Bytes in hexadecimal

Two digits stand for a byte, the high half first. Lower-case digits are written;
digits of either case are read.
-/

namespace KerberosLogin

namespace Hex

/-- The digits of a byte. -/
def digits (byte : UInt8) : List Char :=
  [Nat.digitChar (byte.toNat / 16), Nat.digitChar (byte.toNat % 16)]

/-- Writes bytes. -/
def encode (bytes : Bytes) : String :=
  String.ofList (bytes.flatMap digits)

/-- The value of a digit. -/
def digit? (char : Char) : Option Nat :=
  if '0' ≤ char ∧ char ≤ '9' then some (char.toNat - '0'.toNat)
  else if 'a' ≤ char ∧ char ≤ 'f' then some (char.toNat - 'a'.toNat + 10)
  else if 'A' ≤ char ∧ char ≤ 'F' then some (char.toNat - 'A'.toNat + 10)
  else none

/-- Reads pairs of digits. -/
def decodeChars : List Char → Option Bytes
  | [] => some []
  | [_] => none
  | high :: low :: rest => do
    let byte := UInt8.ofNat (16 * (← digit? high) + (← digit? low))
    return byte :: (← decodeChars rest)

/-- Reads bytes. -/
def decode (text : String) : Option Bytes :=
  decodeChars text.toList

end Hex

end KerberosLogin
