import KerberosLogin.Text.Utf8

/-! # Text in units of sixteen bits

Some protocols write text as UTF-16: a character is one unit, or two that stand for
its place beyond the first 65536. A unit travels with its low byte first.
-/

namespace KerberosLogin

namespace Utf16

/-- The units of a character. -/
def unitsOf (char : Char) : List UInt16 :=
  let value := char.toNat
  if value < 0x10000 then [UInt16.ofNat value]
  else
    let beyond := value - 0x10000
    [UInt16.ofNat (0xD800 + beyond / 0x400), UInt16.ofNat (0xDC00 + beyond % 0x400)]

/-- The units of a text. -/
def units (text : String) : List UInt16 :=
  text.toList.flatMap unitsOf

/-- The character that two units stand for. -/
def pair? (high low : UInt16) : Option Char :=
  if 0xD800 ≤ high.toNat ∧ high.toNat < 0xDC00 ∧ 0xDC00 ≤ low.toNat ∧ low.toNat < 0xE000 then
    some (Char.ofNat (0x10000 + (high.toNat - 0xD800) * 0x400 + (low.toNat - 0xDC00)))
  else none

/-- The character that a unit stands for on its own. Half of a pair stands for none. -/
def single (unit : UInt16) : Char :=
  if 0xD800 ≤ unit.toNat ∧ unit.toNat < 0xE000 then Utf8.replacement
  else Char.ofNat unit.toNat

/-- The characters of any units, with a replacement character for each half without the
other one. -/
def lossyChars : List UInt16 → List Char
  | [] => []
  | [unit] => [single unit]
  | unit :: next :: rest =>
    match pair? unit next with
    | some char => char :: lossyChars rest
    | none => single unit :: lossyChars (next :: rest)

/-- A unit as it travels. -/
def unitBytes (unit : UInt16) : Bytes :=
  [UInt8.ofNat unit.toNat, UInt8.ofNat (unit.toNat / 256)]

/-- Units as they travel. -/
def toBytes (units : List UInt16) : Bytes :=
  units.flatMap unitBytes

/-- The units that some bytes hold. A single byte at the end holds none. -/
def ofBytes : Bytes → List UInt16
  | low :: high :: rest => UInt16.ofNat (low.toNat + 256 * high.toNat) :: ofBytes rest
  | _ => []

/-- The bytes of a text. -/
def encode (text : String) : Bytes :=
  toBytes (units text)

/-- The text of any bytes. -/
def decodeLossy (bytes : Bytes) : String :=
  String.ofList (lossyChars (ofBytes bytes))

end Utf16

end KerberosLogin
