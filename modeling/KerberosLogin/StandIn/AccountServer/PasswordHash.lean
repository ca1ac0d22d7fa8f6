import KerberosLogin.Credentials
import KerberosLogin.StandIn.Md4
import KerberosLogin.Text.Hex
import KerberosLogin.Text.Uppercase
import KerberosLogin.Text.Utf16

/-! # Hashes in the place of passwords

Both ends know a password by a hash of sixteen bytes. As a rule it is the MD4 digest of
the password in UTF-16. But a password can also be a hash that was written down: in
hexadecimal after a mark, or as digits at the front of a text that is longer than any
password.
-/

namespace KerberosLogin

namespace StandIn

namespace AccountServer

namespace PasswordHash

/-- How many bytes a hash has. -/
def size : Nat := Md4.size

/-- The mark before a hash that is written down. -/
def mark : List Char := "$NTLM$:".toList

/-- Reads a hash that is written down. All digits have to be there. -/
def ofDigits? (digits : List Char) : Option Bytes :=
  if digits.length = 2 * size then Hex.decodeChars digits else none

/-- How many bytes the longest password has. -/
def longest : Nat := 512

/-- The value of a byte as a digit. Bytes that are no digits have some value, too. -/
def digitValue (byte : UInt8) : UInt8 :=
  if byte ≤ 0x39 then byte - 0x30 else byte - 0x41 + 10

/-- A byte for any two digits. Of values that are too large the bits mix. -/
def pack : Bytes → Bytes
  | high :: low :: rest => (digitValue high <<< 4 ||| digitValue low) :: pack rest
  | _ => []

/-- Reads a hash from the front of bytes that are too long for a password. The last
`longest` bytes do not matter; what is before them has to be well-formed UTF-8, and is
read in capital letters. -/
def ofOverlong? (bytes : Bytes) : Option Bytes :=
  let front := bytes.take (bytes.length - longest)
  match Utf8.decode front with
  | .error _ => none
  | .ok text =>
    let digits := Utf8.encode (Uppercase.ofString text)
    if front.length < 2 * size || digits.length < 2 * size then none
    else some (pack (digits.take (2 * size)))

/-- The hash that a password stands for, if it stands for any. -/
def ofPassword? (password : Password) : Option Bytes :=
  let chars := password.expose.toList
  if mark.isPrefixOf chars then ofDigits? (chars.drop mark.length)
  else
    let bytes := Utf16.encode password.expose
    if bytes.length ≤ longest then some (Md4.digest bytes) else ofOverlong? bytes

end PasswordHash

end AccountServer

end StandIn

end KerberosLogin
