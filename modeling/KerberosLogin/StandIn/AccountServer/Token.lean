import KerberosLogin.StandIn.Checksum

/-! # Tokens of a login

Three tokens make a login: the client greets, the server challenges, and the client
answers with a proof. Each begins with a signature and its type.

A token can have fields, which lie somewhere behind its fixed part; in the fixed part
stand their sizes and where they begin. A size has two bytes only, so a longer field is
read up to the remainder.
-/

namespace KerberosLogin

namespace StandIn

namespace AccountServer

namespace Token

/-- What a token of some type begins with. -/
def start (type : Nat) : Bytes :=
  Utf8.encode "NTLMSSP" ++ 0 :: littleEndian 4 type

/-- How many bytes the start of a token has. -/
def startSize : Nat := 12

/-- How many bytes of the fixed part describe a field. -/
def fieldSize : Nat := 8

/-- Describes a field. Its size stands there twice. -/
def describeField (size offset : Nat) : Bytes :=
  littleEndian 2 size ++ littleEndian 2 size ++ littleEndian 4 offset

/-- The field that is described at a place of a token. It has to lie inside. -/
def field? (token : Bytes) (place : Nat) : Option Bytes :=
  let size := ofLittleEndian ((token.drop place).take 2)
  let offset := ofLittleEndian ((token.drop (place + 4)).take 4)
  let content := (token.drop offset).take size
  if content.length = size then some content else none

/-- The token that opens a login. -/
def greeting : Bytes := start 1

/-- What a challenge begins with. -/
def challengeStart : Bytes := start 2

/-- How many bytes the fixed part of a challenge has: after the start the field of a
target's name, flags, eight bytes that nobody can guess, eight bytes for later use, and
the field of attributes. -/
def challengeSize : Nat := 48

/-- Where the attributes of a challenge are described. -/
def attributesPlace : Nat := 40

/-- The challenge that the server sends. It meets each client once, so that one is
enough. -/
def challenge : Bytes :=
  challengeStart ++ describeField 0 challengeSize ++ littleEndian 4 0 ++ checksum greeting
    ++ littleEndian 8 0 ++ describeField 0 challengeSize

/-- How many bytes of version follow the fixed part of a challenge whose flags tell of
one. -/
def versionSize : Nat := 8

/-- Whether the flags of a challenge tell of a version. -/
def hasVersion (token : Bytes) : Bool :=
  token.getD 23 0 &&& 0x02 != 0

/-- Whether an attribute of some kind can have a value of some size. -/
def admits (kind size : Nat) : Bool :=
  match kind with
  | 0 => size = 0
  | 1 | 2 | 3 | 4 | 5 | 9 => true
  | 6 => size = 4
  | 7 => size = 8
  | 8 => size = 48
  | 10 => size = 16
  | _ => false

/-- Whether bytes are attributes one after the other, each with its kind, the size of
its value, and the value. -/
def areAttributes (bytes : Bytes) : Bool :=
  if _empty : bytes = [] then true
  else
    let kind := ofLittleEndian (bytes.take 2)
    let size := ofLittleEndian ((bytes.drop 2).take 2)
    4 + size ≤ bytes.length && admits kind size && areAttributes (bytes.drop (4 + size))
termination_by bytes.length
decreasing_by
  have := List.length_pos_iff.mpr _empty
  rw [List.length_drop]
  omega

/-- Whether a client can read a token as a challenge. What follows the parts that it
describes does not matter. -/
def isChallenge (token : Bytes) : Bool :=
  challengeStart.isPrefixOf token
    && challengeSize + (if hasVersion token then versionSize else 0) ≤ token.length
    && (field? token startSize).isSome
    && (field? token attributesPlace).any areAttributes

/-- What a client sends to prove who it is. -/
structure Proof where
  /-- Shows that the client knows a password. -/
  evidence : Bytes
  /-- The user's account and domain in UTF-16. -/
  user : Bytes
  domain : Bytes

namespace Proof

/-- What a proof begins with. -/
def typeStart : Bytes := start 3

/-- How many bytes the fixed part of a proof has. -/
def fixedSize : Nat := startSize + checksumSize + 2 * fieldSize

/-- The token with a proof. -/
def encode (proof : Proof) : Bytes :=
  typeStart ++ proof.evidence
    ++ describeField proof.user.length (fixedSize + proof.domain.length)
    ++ describeField proof.domain.length fixedSize
    ++ proof.domain ++ proof.user

/-- Reads a token as a proof. -/
def read? (token : Bytes) : Option Proof := do
  guard (typeStart.isPrefixOf token)
  let userPlace := startSize + checksumSize
  return {
    evidence := (token.drop startSize).take checksumSize
    user := ← field? token userPlace
    domain := ← field? token (userPlace + fieldSize) }

end Proof

end Token

end AccountServer

end StandIn

end KerberosLogin
