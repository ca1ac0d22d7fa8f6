import KerberosLogin.Text.Utf8

/-! # Numbers in bytes

A number of a fixed width is written with its lowest byte first or with its highest
byte first. What does not fit into the width is lost.
-/

namespace KerberosLogin

namespace StandIn

/-- The lowest bytes of a number, the lowest of them first. -/
def littleEndian (width value : Nat) : Bytes :=
  match width with
  | 0 => []
  | width + 1 => UInt8.ofNat value :: littleEndian width (value / 256)

/-- The lowest bytes of a number, the highest of them first. -/
def bigEndian (width value : Nat) : Bytes :=
  (littleEndian width value).reverse

/-- The number that some bytes hold, the lowest first. -/
def ofLittleEndian (bytes : Bytes) : Nat :=
  bytes.foldr (fun byte number => byte.toNat + 256 * number) 0

/-- The number that some bytes hold, the highest first. -/
def ofBigEndian (bytes : Bytes) : Nat :=
  ofLittleEndian bytes.reverse

end StandIn

end KerberosLogin
