import KerberosLogin.CacheLocation
import KerberosLogin.Credentials
import KerberosLogin.Principal

/-! # Sources of credentials

A source gives access to the credentials of the local security subsystem. It
reads the cache, acquires fresh credentials with a password, and stores them.
What a source answers is left open: it may keep any state, and nothing is
assumed of the order or the consistency of its answers.
-/

namespace KerberosLogin

/-- A span of time. -/
structure Lifetime where
  seconds : Nat
  nanoseconds : Nat
  deriving DecidableEq

/-- Whether no time is left. -/
def Lifetime.isZero (lifetime : Lifetime) : Bool :=
  lifetime.seconds == 0 && lifetime.nanoseconds == 0

/-- Credentials read from a cache. -/
structure CachedCredential (η : Type) where
  /-- What the source knows the credentials by. -/
  handle : η
  /-- The identity they belong to. -/
  principal : Principal
  /-- How long they remain valid. -/
  lifetime : Lifetime

/-- Whether the tickets are no longer valid. -/
def CachedCredential.expired {η : Type} (found : CachedCredential η) : Bool :=
  found.lifetime.isZero

/-- Access to credentials with handles `η`, in states `ω`, with notes `ν` of its
own. -/
structure CredentialSource (ω ν η : Type) where
  /-- Reads the credentials held in a cache. -/
  cached : CacheLocation → Action ω ν (CachedCredential η)
  /-- Obtains fresh credentials for a principal. -/
  acquireWithPassword : Principal → Password → Action ω ν η
  /-- Makes credentials the content of a cache, whatever it held. -/
  store : η → CacheLocation → Action ω ν Unit

/-- A call that reaches a source. -/
inductive SourceCall (η : Type) where
  | cached (location : CacheLocation)
  | acquire (principal : Principal) (password : Password)
  | store (handle : η) (location : CacheLocation)
  deriving DecidableEq

namespace CredentialSource

variable {ω ν η : Type}

/-- The same source, with each call announced to the state before it is made. -/
def observed (announce : SourceCall η → ω → ω) (source : CredentialSource ω ν η) :
    CredentialSource ω ν η where
  cached location := do
    Action.modify (announce (.cached location))
    source.cached location
  acquireWithPassword principal password := do
    Action.modify (announce (.acquire principal password))
    source.acquireWithPassword principal password
  store handle location := do
    Action.modify (announce (.store handle location))
    source.store handle location

end CredentialSource

end KerberosLogin
