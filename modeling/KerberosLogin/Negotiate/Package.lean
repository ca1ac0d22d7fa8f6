import KerberosLogin.SecurityContext

/-! # The Negotiate package

The security support provider interface offers Negotiate as a package of its
own. It keeps no credential cache: it takes a user and a password, or the logon
session, and obtains what it needs itself. The package is not part of this
library. What is fixed here is how it is called; it may keep any state and answer
anything.
-/

namespace KerberosLogin

namespace Negotiate

/-- A failure that the package reports. -/
structure Fault where
  text : String
  /-- Whether the failure is that a message was altered. -/
  altered : Bool := false

/-- A failure of the package as an authentication error. -/
def Fault.toError (kind : ErrorKind) (attempt : String) (fault : Fault) : AuthError :=
  ⟨kind, attempt ++ ": " ++ fault.text⟩

/-- What the package says of a negotiation after a step. -/
inductive Status where
  /-- The context is established. -/
  | done
  /-- The peer's next token is needed. -/
  | continueNeeded
  /-- Any other status, by its name. -/
  | other (name : String)
  deriving DecidableEq

/-- The state that a context reaches with a status. Any other status is a
failure. -/
def Status.contextState : Status → Except AuthError ContextState
  | done => .ok .established
  | continueNeeded => .ok .negotiating
  | other name => .error ⟨.securityContext, "unexpected SSPI status: " ++ name⟩

/-- The answer to a step. -/
structure Progress where
  status : Status
  /-- The token for the peer; empty when there is none. -/
  output : Bytes

/-- How a step can fail. -/
inductive StepFault where
  /-- The package refuses the call. -/
  | refused (fault : Fault)
  /-- The package takes the call, and what it started fails. -/
  | unresolved (fault : Fault)

/-- A failed step as an authentication error. -/
def StepFault.toError : StepFault → AuthError
  | refused fault => fault.toError .securityContext "SSPI step failed"
  | unresolved fault => fault.toError .securityContext "failed to resolve SSPI step"

/-- What is asked of the package for a context. -/
structure RequestFlags where
  mutualAuth : Bool
  delegate : Bool
  extendedError : Bool
  deriving DecidableEq

/-- The flags that ask for some requirements. -/
def RequestFlags.ofRequirements (requirements : Requirements) : RequestFlags where
  mutualAuth := requirements.contains Requirements.mutualAuth
  delegate := requirements.contains Requirements.delegate
  extendedError := requirements.contains Requirements.extendedError

/-- The calls of the package, with names of users `υ`, handles of credentials `η`,
and a state `ψ` for each context. -/
structure Package (ω υ η ψ : Type) where
  /-- The state of a new client. -/
  newClient : LibraryCall ω Fault ψ
  /-- Reads the name of a user, with a realm or without one. -/
  username : String → Option String → LibraryCall ω Fault υ
  /-- Acquires outbound credentials, for the given identity or for the default
  one. -/
  acquire : Option (υ × Password) → LibraryCall (ψ × ω) Fault (Option η)
  /-- Makes one step towards a target. The handle of the credentials is lent for
  the call, which may change it. -/
  advance : RequestFlags → String → Option Bytes →
    LibraryCall ((Option η × ψ) × ω) StepFault Progress
  /-- The size of what protection puts before a message. -/
  trailerSize : LibraryCall (ψ × ω) Fault Nat
  /-- Protects a message under a sequence number. The truth value forgoes
  encryption. The two parts of the message are changed in place. -/
  encrypt : Bool → Bytes → Bytes → UInt32 → LibraryCall (ψ × ω) Fault (Bytes × Bytes)
  /-- Verifies a message under a sequence number. -/
  decrypt : Bytes → UInt32 → LibraryCall (ψ × ω) Fault Bytes

end Negotiate

end KerberosLogin
