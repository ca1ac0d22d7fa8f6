import KerberosLogin.SecurityContext

/-! # The Kerberos mechanism of GSSAPI

GSSAPI is the generic interface to security mechanisms, of which Kerberos is
one. It reads and writes credential caches, and it negotiates contexts. The
mechanism is not part of this library. What is fixed here is how it is called; it
may keep any state and answer anything.
-/

namespace KerberosLogin

namespace Gssapi

/-- A failure that the mechanism reports. -/
structure Fault where
  /-- The major status. One of its fields is the routine error. -/
  major : UInt32
  text : String

namespace Fault

/-- The field of a major status that holds the routine error. -/
def routineMask : UInt32 := 0x00FF0000

/-- The routine error of a message with a bad signature. -/
def badSignature : UInt32 := 0x00060000

/-- The routine error of credentials that have expired. -/
def credentialsExpired : UInt32 := 0x000B0000

/-- The routine error of a failure. -/
def routine (fault : Fault) : UInt32 :=
  fault.major &&& routineMask

/-- A failure as an authentication error. -/
def toError (kind : ErrorKind) (attempt : String) (fault : Fault) : AuthError :=
  ⟨kind, attempt ++ ": " ++ fault.text⟩

end Fault

/-- What the mechanism tells of credentials. -/
structure CredentialInfo where
  /-- The name of the identity they belong to. -/
  name : String
  lifetime : Lifetime

/-- What is asked of the mechanism for a context. There is no portable flag for
extended errors. -/
structure ContextFlags where
  mutualAuth : Bool
  delegate : Bool
  deriving DecidableEq

/-- The flags that ask for some requirements. -/
def ContextFlags.ofRequirements (requirements : Requirements) : ContextFlags where
  mutualAuth := requirements.contains Requirements.mutualAuth
  delegate := requirements.contains Requirements.delegate

/-- The calls of the mechanism, with sets of mechanisms `μ`, credentials `η`, names
`ξ`, and a state `γ` for each context. -/
structure Mechanism (ω μ η ξ γ : Type) where
  /-- A set without mechanisms. -/
  emptySet : LibraryCall ω Fault μ
  /-- Adds Kerberos to a set. -/
  addKerberos : μ → LibraryCall ω Fault μ
  /-- Acquires the initiator credentials of the default cache. -/
  acquire : μ → LibraryCall ω Fault η
  /-- Tells of credentials whose they are and how long they last. -/
  inspect : η → LibraryCall ω Fault CredentialInfo
  /-- Reads the name of a principal. -/
  importName : Bytes → LibraryCall ω Fault ξ
  /-- Brings a name into the form that the mechanism uses. -/
  canonicalize : ξ → LibraryCall ω Fault ξ
  /-- Acquires fresh initiator credentials. -/
  acquireWithPassword : ξ → Password → μ → LibraryCall ω Fault η
  /-- Makes credentials the default content of the cache with a name, whatever it
  held. -/
  storeInto : η → String → LibraryCall ω Fault Unit
  /-- The state of a new client context. Without credentials it uses those of the
  default cache. -/
  newContext : Option η → ξ → ContextFlags → γ
  /-- Makes one step of the negotiation. -/
  step : Option Bytes → LibraryCall (γ × ω) Fault (Option Bytes)
  /-- Whether the negotiation is finished. -/
  isComplete : γ → Bool
  /-- Protects a message; the truth value asks for encryption. -/
  wrap : Bool → Bytes → LibraryCall (γ × ω) Fault Bytes
  /-- Verifies a message. -/
  unwrap : Bytes → LibraryCall (γ × ω) Fault Bytes

end Gssapi

end KerberosLogin
