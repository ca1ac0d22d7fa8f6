import KerberosLogin.StandIn.AccountServer.Token
import KerberosLogin.Text.Uppercase
import KerberosLogin.Text.Utf16

/-! # Keys of a session

A key comes from a challenge, the hash of a password, and the names of a user and a
domain. It shows in a proof that the password is known, and it seals messages.

A message is sealed with its place in the stream of its direction. The receiver counts
on its own: a message that is lost, repeated or out of order does not verify, and one
that was damaged puts the receiver out of step for good.
-/

namespace KerberosLogin

namespace StandIn

namespace AccountServer

/-- The key of a session. -/
structure SessionKey where
  bytes : Bytes
  deriving DecidableEq

namespace SessionKey

/-- The key for a user and a domain. Case does not matter in the name of the user. -/
def derive (challenge hash : Bytes) (user domain : String) : SessionKey :=
  ⟨littleEndian 4 challenge.length ++ challenge ++ hash
    ++ Utf16.encode (Uppercase.ofString user) ++ Utf16.encode domain⟩

/-- Shows that the key is known. -/
def evidence (key : SessionKey) : Bytes :=
  checksum key.bytes

/-- How many bytes the seal of a message has. -/
def sealSize : Nat := 16

/-- The seal of a message at a place of a stream. -/
def sealFor (key : SessionKey) (direction : Direction) (position sequence : Nat)
    (payload : Bytes) : Bytes :=
  let place := bigEndian 4 position ++ bigEndian 4 sequence
  checksum (key.bytes ++ direction.tag :: place ++ payload) ++ place

/-- The payload of a message that is sealed for a place of a stream. -/
def opened? (key : SessionKey) (direction : Direction) (position sequence : Nat)
    (message : Bytes) : Option Bytes :=
  let payload := message.drop sealSize
  if message.take sealSize = key.sealFor direction position sequence payload then some payload
  else none

end SessionKey

/-- How far a message moves its stream on. -/
def advanceBy (payloadSize : Nat) : Nat := payloadSize + 8

/-- How far a message moves the receiver on, whether it verifies or not. A message
that is too short for a seal moves nothing. -/
def receivedBy (message : Bytes) : Nat :=
  if message.length < SessionKey.sealSize then 0
  else advanceBy (message.length - SessionKey.sealSize)

end AccountServer

end StandIn

end KerberosLogin
