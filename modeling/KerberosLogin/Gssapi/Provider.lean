import KerberosLogin.Gssapi.Source

/-! # Security contexts of GSSAPI

The provider resolves credentials through the credential cache and negotiates
contexts with the Kerberos mechanism. A context is established when the mechanism
says so after a step.
-/

namespace KerberosLogin

namespace Gssapi

variable {ω μ η ξ γ α : Type}

/-- A client context. -/
structure Context (γ : Type) where
  /-- The state that the mechanism keeps. -/
  mechanism : γ
  state : ContextState

/-- The context as it is shown to a developer. -/
def Context.shown (context : Context γ) : String :=
  Shown.openRecord "GssapiContext" [("state", context.state.name)]

/-- What is noted by the provider. -/
inductive Note where
  /-- A note of the resolution of credentials. -/
  | resolving (entry : ResolverNote CacheLocation)
  /-- A context was initiated. -/
  | initiating (target : String) (requirements : Requirements)
  deriving DecidableEq

/-- What is logged of a note. -/
def Note.logRecord : Note → LogRecord
  | resolving entry => entry.logRecord CacheLocation.logRecord
  | initiating target requirements =>
    ⟨.debug, "initiating GSSAPI context",
      [("target", .text target), ("requirements", .text requirements.shown)]⟩

/-- A call of the mechanism on its part of the context. -/
def Context.call (explain : Fault → AuthError) (request : LibraryCall (γ × ω) Fault α) :
    Action (Context γ × ω) Note α where
  run := fun (context, shared) =>
    let (answer, mechanism, shared') := request (context.mechanism, shared)
    ⟨answer.mapError explain, ({ context with mechanism := mechanism }, shared'), []⟩

namespace Mechanism

variable (library : Mechanism ω μ η ξ γ)

/-- Makes one step of the negotiation. A step that fails leaves the state as it
was. -/
def advance (input : Option Bytes) : Action (Context γ × ω) Note StepOutput := do
  let token ← Context.call (Fault.toError .securityContext "GSSAPI step failed")
    (library.step input)
  let (context, _) ← Action.get
  let complete := library.isComplete context.mechanism
  Action.modify fun (context, shared) =>
    ({ context with state := if complete then .established else .negotiating }, shared)
  return ⟨token, complete⟩

/-- Protects a message. -/
def protect (payload : Bytes) (encrypt : Bool) : Action (Context γ × ω) Note Bytes := do
  let (context, _) ← Action.get
  context.state.ensureEstablished "wrap"
  Context.call (Fault.toError .securityContext "GSSAPI wrap failed")
    (library.wrap encrypt payload)

/-- What it means that a message could not be verified. -/
def unwrapError (fault : Fault) : AuthError :=
  if fault.routine = Fault.badSignature then
    fault.toError .integrityCheck "server message failed verification"
  else
    fault.toError .securityContext "GSSAPI unwrap failed"

/-- Verifies a message. -/
def verify (message : Bytes) : Action (Context γ × ω) Note Bytes := do
  let (context, _) ← Action.get
  context.state.ensureEstablished "unwrap"
  Context.call unwrapError (library.unwrap message)

/-- The operations on contexts. -/
def context : SecurityContext ω Note (Context γ) where
  state := Context.state
  step := library.advance
  wrap := library.protect
  unwrap := library.verify

/-- The credentials to use. Without any the mechanism uses those of the default
cache. -/
def handle? : InitiatorCredential η → Except AuthError (Option η)
  | .resolved handle => .ok (some handle)
  | .default => .ok none
  | .embedded _ => .error ⟨.unsupportedMethod,
      "the GSSAPI provider does not accept embedded identities"⟩

/-- Creates a context. -/
def initiate (target : String) (credential : InitiatorCredential η) (requirements : Requirements) :
    Action ω Note (Context γ) := do
  let handle ← Action.ofExcept (handle? credential)
  let name ← Action.ofCall
    (Fault.toError .securityContext ("invalid service principal " ++ target))
    (library.importName (Utf8.encode target))
  let name ← Action.ofCall (Fault.toError .securityContext ("unable to canonicalize " ++ target))
    (library.canonicalize name)
  Action.note (.initiating target requirements)
  return ⟨library.newContext handle name (.ofRequirements requirements), .uninitiated⟩

/-- The provider over the mechanism, in a process with a given environment. -/
def provider (processEnv : CacheEnvironment) : SecurityProvider ω Note η (Context γ) where
  name := "gssapi"
  resolveCredentials request env :=
    ((library.source processEnv).resolve env request).mapNotes .resolving
  initiate := library.initiate
  context := library.context

end Mechanism

end Gssapi

end KerberosLogin
