import KerberosLogin.StandIn.ByteOrder

/-! # Checksums

Stand-ins protect messages with a checksum in place of cryptography: any change of
a message shows, and nothing is kept secret.
-/

namespace KerberosLogin

namespace StandIn

/-- The Fowler–Noll–Vo hash of some bytes, in the variant that takes a byte in
before it multiplies, with 64 bits. -/
def fnv1a64 (bytes : Bytes) : UInt64 :=
  bytes.foldl (fun hash byte => (hash ^^^ byte.toUInt64) * 0x100000001b3) 0xcbf29ce484222325

/-- How many bytes a checksum has. -/
def checksumSize : Nat := 8

/-- A checksum of some bytes. -/
def checksum (bytes : Bytes) : Bytes :=
  bigEndian checksumSize (fnv1a64 bytes).toNat

/-- The two ways of a message. -/
inductive Direction where
  | toServer
  | toClient
  deriving DecidableEq

/-- The byte that tells the ways apart. -/
def Direction.tag : Direction → UInt8
  | toServer => 0
  | toClient => 1

end StandIn

end KerberosLogin
