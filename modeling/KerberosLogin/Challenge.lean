import KerberosLogin.Error

/-! # The server's challenge

The server opens a Kerberos login with one packet. It names the service
principal the client has to authenticate to and the realm of that principal,
each as a length in two bytes, the low byte first, and that many bytes of UTF-8.
Nothing may follow the realm.

Reading reports the leftmost fault. A length that points past the end of the
packet is reported as such, whatever the bytes that are present say, so a packet
cut inside a character is diagnosed as cut.
-/

namespace KerberosLogin

/-- What the server asks the client to authenticate to. -/
structure Challenge where
  servicePrincipal : String
  realm : String
  deriving DecidableEq

namespace Challenge

/-- The two fields of a packet, in their order. -/
inductive Field where
  | servicePrincipal
  | realm
  deriving DecidableEq

/-- The field's name in diagnostics. -/
def Field.name : Field → String
  | servicePrincipal => "service principal"
  | realm => "realm"

/-- What can be wrong with a packet, or with a challenge that should become
one. -/
inductive Fault where
  /-- Fewer than two bytes are left where the length of a field belongs. -/
  | missingLength (field : Field)
  /-- A field is declared longer than the rest of the packet. -/
  | overlong (field : Field) (declared remaining : Nat)
  /-- The bytes of a field are not text. -/
  | notText (field : Field) (fault : Utf8.Fault)
  /-- Bytes follow the realm. -/
  | trailing (count : Nat)
  /-- A text does not fit a field. -/
  | oversized (field : Field) (size : Nat)
  deriving DecidableEq

/-- The greatest length of a field in bytes. -/
def maxFieldSize : Nat := 65535

/-- The fault in words. -/
def Fault.diagnostic : Fault → String
  | missingLength field => s!"missing {field.name} length"
  | overlong field declared remaining =>
    s!"{field.name} length {declared} exceeds remaining {remaining} bytes"
  | notText field fault => s!"{field.name} is not valid UTF-8: {fault.message}"
  | trailing count => s!"{count} unexpected trailing bytes after realm"
  | oversized field size => s!"{field.name} is {size} bytes, max {maxFieldSize}"

/-- Every fault makes the packet malformed. -/
def Fault.toError (fault : Fault) : AuthError :=
  ⟨.malformedPacket, fault.diagnostic⟩

/-- A length in two bytes, the low byte first. -/
def lengthBytes (length : Nat) : Bytes :=
  [UInt8.ofNat (length % 256), UInt8.ofNat (length / 256)]

/-- One field of a packet. -/
def writeField (field : Field) (text : String) : Except Fault Bytes :=
  let bytes := Utf8.encode text
  if bytes.length ≤ maxFieldSize then
    .ok (lengthBytes bytes.length ++ bytes)
  else
    .error (.oversized field bytes.length)

/-- Reads one field from the front of some bytes and yields the bytes after it. -/
def readField (field : Field) : Bytes → Except Fault (String × Bytes)
  | low :: high :: rest =>
    let declared := low.toNat + 256 * high.toNat
    if rest.length < declared then
      .error (.overlong field declared rest.length)
    else
      match Utf8.decode (rest.take declared) with
      | .ok text => .ok (text, rest.drop declared)
      | .error fault => .error (.notText field fault)
  | _ => .error (.missingLength field)

/-- The packet of a challenge. -/
def encode (challenge : Challenge) : Except Fault Bytes := do
  let principal ← writeField .servicePrincipal challenge.servicePrincipal
  let realm ← writeField .realm challenge.realm
  return principal ++ realm

/-- The challenge in a packet. -/
def decode (packet : Bytes) : Except Fault Challenge := do
  let (servicePrincipal, rest) ← readField .servicePrincipal packet
  let (realm, rest) ← readField .realm rest
  if rest.isEmpty then
    return ⟨servicePrincipal, realm⟩
  else
    throw (.trailing rest.length)

/-- The challenge in the first data of the server, if they carry one. A server
that sends nothing, or names an empty service principal, offers no Kerberos for
the account; a packet that cannot be read is a fault all the same. -/
def decodeOptional : Option Bytes → Except Fault (Option Challenge)
  | none => .ok none
  | some [] => .ok none
  | some packet => do
    let challenge ← decode packet
    return if challenge.servicePrincipal.isEmpty then none else some challenge

/-- The realm, unless it is empty. -/
def realm? (challenge : Challenge) : Option String :=
  if challenge.realm.isEmpty then none else some challenge.realm

/-- The challenge as it is shown to a developer. -/
def shown (challenge : Challenge) : String :=
  Shown.record "AuthChallenge"
    [("spn", Shown.quoted challenge.servicePrincipal), ("realm", Shown.quoted challenge.realm)]

end Challenge

end KerberosLogin
