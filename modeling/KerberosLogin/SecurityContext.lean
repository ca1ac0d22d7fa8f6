import KerberosLogin.Requirements
import KerberosLogin.Resolver

/-! # Security contexts and their providers

A provider turns a target and credentials into a security context. The context
is stepped with the server's tokens until it is established; only then can it
protect messages. Providers differ in all but this interface, so their states,
their credentials and their contexts are parameters, and nothing is assumed of
what they answer.
-/

namespace KerberosLogin

/-- How far the negotiation of a context has come. -/
inductive ContextState where
  /-- Created, but not stepped yet. -/
  | uninitiated
  /-- At least one step made, and more needed. -/
  | negotiating
  /-- Messages can be protected. -/
  | established
  deriving DecidableEq

/-- The state's name. -/
def ContextState.name : ContextState → String
  | uninitiated => "Uninitiated"
  | negotiating => "Negotiating"
  | established => "Established"

/-- The state of a name. -/
def ContextState.ofName? (name : String) : Option ContextState :=
  [uninitiated, negotiating, established].find? fun state => state.name = name

/-- What one step of the negotiation yields. -/
structure StepOutput where
  /-- The token for the server, if there is one. -/
  token : Option Bytes
  /-- Whether the context is established now. -/
  complete : Bool
  deriving DecidableEq

/-- An identity that is handed to a provider as it is. -/
structure EmbeddedIdentity where
  /-- The user, without realm. -/
  user : String
  /-- The realm of the user, if the server named one. -/
  realm : Option String
  password : Password
  deriving DecidableEq

/-- The identity as it is shown to a developer. -/
def EmbeddedIdentity.shown (identity : EmbeddedIdentity) : String :=
  Shown.record "EmbeddedIdentity"
    [("user", Shown.quoted identity.user),
     ("realm", Shown.option Shown.quoted identity.realm),
     ("password", Shown.quoted Shown.redacted)]

/-- What a context is initiated with. -/
inductive InitiatorCredential (κ : Type) where
  /-- Credentials that were resolved. -/
  | resolved (credential : κ)
  /-- An identity for which the provider acquires credentials itself. -/
  | embedded (identity : EmbeddedIdentity)
  /-- The provider's own default, such as the logon session. -/
  | default
  deriving DecidableEq

/-- The credential as it is shown to a developer. -/
def InitiatorCredential.shown {κ : Type} (credential : κ → String) :
    InitiatorCredential κ → String
  | resolved handle => Shown.call "Resolved" (credential handle)
  | embedded identity => Shown.call "Embedded" identity.shown
  | default => "Default"

/-- The operations on contexts `χ`. An operation may change the context and the
state `ω` that it shares with the provider. -/
structure SecurityContext (ω ν χ : Type) where
  /-- How far the negotiation has come. -/
  state : χ → ContextState
  /-- Whether the context is established. A provider may answer otherwise than
  its state says. -/
  isComplete : χ × ω → Bool × (χ × ω) := fun context =>
    (decide (state context.1 = .established), context)
  /-- Advances the negotiation by one round, with the server's last token if there
  was one. -/
  step : Option Bytes → Action (χ × ω) ν StepOutput
  /-- Protects an outgoing message. -/
  wrap : Bytes → Bool → Action (χ × ω) ν Bytes
  /-- Verifies an incoming message and takes its protection away. -/
  unwrap : Bytes → Action (χ × ω) ν Bytes

/-- A backend that can create security contexts. -/
structure SecurityProvider (ω ν κ χ : Type) where
  /-- The name for the log. -/
  name : String
  /-- What the backend can do beyond the ordinary. -/
  capabilities : Capabilities := Flags.empty
  /-- Resolves cached credentials, or acquires some with a password. -/
  resolveCredentials : IdentityRequest → CacheEnvironment → Action ω ν (ResolvedCredentials κ)
  /-- Creates a context for a target. -/
  initiate : String → InitiatorCredential κ → Requirements → Action ω ν χ
  /-- The operations on the contexts created. -/
  context : SecurityContext ω ν χ

/-- A call that reaches a provider or one of its contexts. Questions about the
name, the capabilities and the state are not calls. -/
inductive ProviderCall (κ : Type) where
  | resolve (request : IdentityRequest) (env : CacheEnvironment)
  | initiate (target : String) (credential : InitiatorCredential κ) (requirements : Requirements)
  | step (input : Option Bytes)
  | wrap (payload : Bytes) (encrypt : Bool)
  | unwrap (message : Bytes)
  deriving DecidableEq

namespace SecurityContext

variable {ω ν κ χ : Type}

/-- Asks a context whether it is established. -/
def askComplete (operations : SecurityContext ω ν χ) : Action (χ × ω) ν Bool where
  run state :=
    let (complete, state') := operations.isComplete state
    ⟨.ok complete, state', []⟩

/-- The same operations, with each call announced to the shared state before it is
made. -/
def observed (announce : ProviderCall κ → ω → ω) (operations : SecurityContext ω ν χ) :
    SecurityContext ω ν χ where
  state := operations.state
  isComplete := operations.isComplete
  step input := do
    Action.onSecond (Action.modify (announce (.step input)))
    operations.step input
  wrap payload encrypt := do
    Action.onSecond (Action.modify (announce (.wrap payload encrypt)))
    operations.wrap payload encrypt
  unwrap message := do
    Action.onSecond (Action.modify (announce (.unwrap message)))
    operations.unwrap message

end SecurityContext

namespace SecurityProvider

variable {ω ν κ χ : Type}

/-- The same provider, with each call announced to its state before it is made. -/
def observed (announce : ProviderCall κ → ω → ω) (provider : SecurityProvider ω ν κ χ) :
    SecurityProvider ω ν κ χ where
  name := provider.name
  capabilities := provider.capabilities
  resolveCredentials request env := do
    Action.modify (announce (.resolve request env))
    provider.resolveCredentials request env
  initiate target credential requirements := do
    Action.modify (announce (.initiate target credential requirements))
    provider.initiate target credential requirements
  context := provider.context.observed announce

end SecurityProvider

/-- Refuses an operation on a context that is not established. -/
def ContextState.ensureEstablished {σ ν : Type} (state : ContextState) (operation : String) :
    Action σ ν Unit :=
  if state = .established then
    pure ()
  else
    Action.fail ⟨.protocolMisuse,
      s!"cannot {operation} before the security context is established (state: {state.name})"⟩

end KerberosLogin
