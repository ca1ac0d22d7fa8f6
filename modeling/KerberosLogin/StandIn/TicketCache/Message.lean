import KerberosLogin.StandIn.Checksum

/-! # Protected messages of the mechanism

A message begins with a header of sixteen bytes: a tag, flags, a filler, two counts
and the number of the message. A message that is encrypted goes on with a
confounder, the payload, a copy of the header and a checksum; any other with the
payload and a checksum, whose size is the first count. A receiver also takes a message
in a frame that names the mechanism.

The second count says how far everything after the header is rotated to the right.
No sender here rotates, but a receiver turns the rest back by whatever it says. The
checksum leaves both counts out, so a message whose second count was changed still
verifies if the rotation comes full circle.
-/

namespace KerberosLogin

namespace StandIn

namespace TicketCache

namespace Message

/-- Why a message cannot be read. -/
inductive Fault where
  /-- It is no message. -/
  | defective
  /-- It is not what the peer sent. -/
  | forged

/-- The tag of a message. -/
def tag : Bytes := [5, 4]

/-- The tags of tokens that begin as messages do, and are none. -/
def otherTags : List Bytes := [[4, 4], [4, 5]]

/-- The byte after the flags. -/
def filler : UInt8 := 0xFF

/-- The flag of a message that the server sent. -/
def sentByServer : UInt8 := 1

/-- The flag of a message that is encrypted. -/
def encrypted : UInt8 := 2

/-- The flags of a message. -/
def flagsOf (direction : Direction) (encrypt : Bool) : UInt8 :=
  (if direction = .toClient then sentByServer else 0) ||| (if encrypt then encrypted else 0)

/-- What a header says. -/
structure Header where
  flags : UInt8
  /-- How many bytes follow the payload. -/
  extra : Nat := 0
  /-- How far the rest is rotated. -/
  rotation : Nat := 0
  /-- The number of the message. -/
  number : Nat

namespace Header

/-- How many bytes a header has. -/
def size : Nat := 16

/-- The bytes of a header. -/
def encode (header : Header) : Bytes :=
  tag ++ [header.flags, filler] ++ bigEndian 2 header.extra ++ bigEndian 2 header.rotation
    ++ bigEndian 8 header.number

/-- The header at the start of some bytes, whatever their tag and filler are. -/
def ofBytes (bytes : Bytes) : Header where
  flags := bytes.getD 2 0
  extra := ofBigEndian ((bytes.drop 4).take 2)
  rotation := ofBigEndian ((bytes.drop 6).take 2)
  number := ofBigEndian ((bytes.drop 8).take 8)

/-- Whether a flag is set. -/
def has (header : Header) (flag : UInt8) : Bool :=
  header.flags &&& flag != 0

/-- The header as checksums cover it. -/
def covered (header : Header) : Bytes :=
  { header with extra := 0, rotation := 0 }.encode

end Header

/-- How many bytes the checksum of a message has. -/
def checksumSize : Nat := 12

/-- The checksum of a message. -/
def checksumOf (content : Bytes) : Bytes :=
  checksum content ++ bigEndian 4 content.length

/-- What an encrypted payload begins with. -/
def confounder : Bytes := List.replicate 16 0

/-- What follows the header of a message that is not encrypted. -/
def plainBody (header : Header) (payload : Bytes) : Bytes :=
  payload ++ checksumOf (payload ++ header.covered)

/-- What follows the header of a message that is encrypted. -/
def encryptedBody (header : Header) (payload : Bytes) : Bytes :=
  let content := confounder ++ payload ++ header.covered
  content ++ checksumOf content

/-- Protects a payload. -/
def protect (direction : Direction) (encrypt : Bool) (number : Nat) (payload : Bytes) : Bytes :=
  let header : Header := ⟨flagsOf direction encrypt, if encrypt then 0 else checksumSize, 0, number⟩
  header.encode ++ (if encrypt then encryptedBody else plainBody) header payload

/-- The payload of a body that is not encrypted. -/
def verify (header : Header) (body : Bytes) : Except Fault Bytes :=
  if body.length < header.extra then .error .defective
  else
    let payload := body.take (body.length - header.extra)
    if body = plainBody header payload then .ok payload else .error .forged

/-- The payload of a body that is encrypted. -/
def decrypt (header : Header) (body : Bytes) : Except Fault Bytes :=
  let size := body.length - (confounder.length + Header.size + checksumSize)
  let payload := (body.drop confounder.length).take size
  if body = encryptedBody header payload then .ok payload else .error .forged

/-- The first byte of a message in a frame. -/
def frameTag : UInt8 := 0x60

/-- Names the mechanism in a frame. -/
def mechanismName : Bytes :=
  [0x06, 0x09, 0x2A, 0x86, 0x48, 0x86, 0xF7, 0x12, 0x01, 0x02, 0x02]

/-- How many bytes a size can have behind the byte that counts them. -/
def longestSize : Nat := 4

/-- Reads the size of a frame, which is one byte, or more bytes after a byte that counts
them. What follows is the content, and has that size. -/
def frameContent? : Bytes → Option Bytes
  | [] => none
  | first :: rest =>
    let count := if first < 0x80 then 0 else first.toNat - 0x80
    let content := rest.drop count
    let size := if first < 0x80 then first.toNat else ofBigEndian (rest.take count)
    if count ≤ longestSize && content.length = size then some content else none

/-- Takes a message out of its frame, if it has one. -/
def unframe? : Bytes → Option Bytes
  | [] => some []
  | first :: rest =>
    if first = frameTag then do
      let content ← frameContent? rest
      guard (mechanismName.isPrefixOf content)
      return content.drop mechanismName.length
    else some (first :: rest)

/-- Takes the protection off a message without a frame. A token that begins as messages
do is looked at for its direction before it is found to be none. -/
def openBare? (direction : Direction) (message : Bytes) : Except Fault Bytes :=
  let header := Header.ofBytes message
  let start := message.take tag.length
  if message.length < Header.size || !(tag :: otherTags).contains start then .error .defective
  else if header.has sentByServer != (direction = .toClient) then .error .forged
  else if start ≠ tag || message.getD 3 0 ≠ filler then .error .defective
  else
    let body := (message.drop Header.size).rotateLeft header.rotation
    if header.has encrypted then decrypt header body else verify header body

/-- Takes the protection off a message. -/
def open? (direction : Direction) (message : Bytes) : Except Fault Bytes :=
  (unframe? message).elim (.error .defective) (openBare? direction)

end Message

end TicketCache

end StandIn

end KerberosLogin
