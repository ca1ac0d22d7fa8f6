import KerberosLogin.Negotiate.Package

/-! # Security contexts of the Negotiate package

A context numbers the messages it sends and the messages it receives. The two
counts are independent, wrap around, and advance with each message that the
package has dealt with successfully. The handle of the credentials is lent to the
package for each step; it comes back with the answer, and only with one.
-/

namespace KerberosLogin

namespace Negotiate

variable {ω υ η ψ α : Type}

/-- A client context. -/
structure Context (η ψ : Type) where
  /-- The state that the package keeps. -/
  package : ψ
  /-- The handle of the credentials. -/
  handle : Option η
  target : String
  flags : RequestFlags
  state : ContextState
  /-- The number of the next message sent. -/
  sendSequence : UInt32
  /-- The number of the next message received. -/
  receiveSequence : UInt32

/-- The context as it is shown to a developer. -/
def Context.shown (context : Context η ψ) : String :=
  Shown.openRecord "NegotiateContext"
    [("target", Shown.quoted context.target), ("state", context.state.name)]

/-- What is noted by the provider. -/
inductive Note where
  /-- A context was initiated. -/
  | initiating (target : String) (explicitIdentity : Bool) (requirements : Requirements)
  deriving DecidableEq

/-- What is logged of a note. -/
def Note.logRecord : Note → LogRecord
  | initiating target explicitIdentity requirements =>
    ⟨.debug, "initiating SSPI Negotiate context",
      [("target", .text target), ("explicit_identity", .flag explicitIdentity),
       ("requirements", .text requirements.shown)]⟩

namespace Context

/-- Changes the context. -/
def update (change : Context η ψ → Context η ψ) : Action (Context η ψ × ω) Note Unit :=
  Action.modify fun (context, shared) => (change context, shared)

/-- A call of the package on its part of the context. -/
def call (explain : Fault → AuthError) (request : LibraryCall (ψ × ω) Fault α) :
    Action (Context η ψ × ω) Note α where
  run := fun (context, shared) =>
    let (answer, package, shared') := request (context.package, shared)
    ⟨answer.mapError explain, ({ context with package := package }, shared'), []⟩

end Context

namespace Package

variable (library : Package ω υ η ψ)

/-- Makes one step of the negotiation. A step that the package fails loses the
handle it was lent; a status that is no state is a failure, but the handle is
back. -/
def step (input : Option Bytes) : Action (Context η ψ × ω) Note StepOutput where
  run := fun (context, shared) =>
    let (answer, (handle, package), shared') :=
      library.advance context.flags context.target input ((context.handle, context.package), shared)
    let lent := { context with handle := none, package := package }
    match answer with
    | .error fault => ⟨.error fault.toError, (lent, shared'), []⟩
    | .ok progress =>
      let returned := { lent with handle := handle }
      match progress.status.contextState with
      | .error error => ⟨.error error, (returned, shared'), []⟩
      | .ok state =>
        let token := if progress.output.isEmpty then none else some progress.output
        ⟨.ok ⟨token, decide (state = .established)⟩,
          ({ returned with state := state }, shared'), []⟩

/-- Protects a message under the next number. -/
def wrap (payload : Bytes) (encrypt : Bool) : Action (Context η ψ × ω) Note Bytes := do
  let (context, _) ← Action.get
  context.state.ensureEstablished "wrap"
  let size ← Context.call (Fault.toError .securityContext "failed to query context sizes")
    library.trailerSize
  let (trailer, message) ← Context.call (Fault.toError .securityContext "SSPI wrap failed")
    (library.encrypt (!encrypt) (List.replicate size 0) payload context.sendSequence)
  Context.update fun context => { context with sendSequence := context.sendSequence + 1 }
  return trailer ++ message

/-- What it means that a message could not be verified. -/
def unwrapError (fault : Fault) : AuthError :=
  if fault.altered then fault.toError .integrityCheck "server message failed verification"
  else fault.toError .securityContext "SSPI unwrap failed"

/-- Verifies a message under the next number. -/
def unwrap (message : Bytes) : Action (Context η ψ × ω) Note Bytes := do
  let (context, _) ← Action.get
  context.state.ensureEstablished "unwrap"
  let payload ← Context.call unwrapError (library.decrypt message context.receiveSequence)
  Context.update fun context => { context with receiveSequence := context.receiveSequence + 1 }
  return payload

/-- The operations on contexts. -/
def context : SecurityContext ω Note (Context η ψ) where
  state := Context.state
  step := library.step
  wrap := library.wrap
  unwrap := library.unwrap

/-- The identity that a credential stands for. The default credential stands for
none. -/
def identity? : InitiatorCredential Empty → Action ω Note (Option (υ × Password))
  | .embedded identity => do
    let name ← Action.ofCall (Fault.toError .configuration ("invalid user " ++ identity.user))
      (library.username identity.user identity.realm)
    return some (name, identity.password)
  | .default => return none

/-- Creates a context. -/
def initiate (target : String) (credential : InitiatorCredential Empty)
    (requirements : Requirements) : Action ω Note (Context η ψ) := do
  let package ← Action.ofCall
    (Fault.toError .securityContext "failed to create Negotiate context") library.newClient
  let identity ← library.identity? credential
  let (handle, package) ← (Action.ofCall
    (Fault.toError .acquisitionFailure "failed to acquire SSPI credentials")
    (library.acquire identity)).withOwn package
  Action.note (.initiating target identity.isSome requirements)
  return ⟨package, handle, target, .ofRequirements requirements, .uninitiated, 0, 0⟩

/-- The provider over the package. It takes identities as they are and resolves
none. -/
def provider : SecurityProvider ω Note Empty (Context η ψ) where
  name := "sspi-negotiate"
  capabilities := Capabilities.embeddedIdentity
  resolveCredentials _ _ := Action.fail ⟨.unsupportedMethod,
    "SSPI manages credentials itself; pass an embedded identity or use the logon session"⟩
  initiate := library.initiate
  context := library.context

end Package

end Negotiate

end KerberosLogin
