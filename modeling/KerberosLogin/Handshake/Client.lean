import KerberosLogin.Handshake.Exchange

/-! # The client of an exchange

The client answers the server's first packet, steps the security context with
each further token until it is established, and answers the server's protected
closing message with its own. A server that names no service principal is sent
the password, if there is one.

The challenge and the context enter the exchange only when the first step has
succeeded. Every operation but one called out of order ends in success or in the
state `failed`, without a context.
-/

namespace KerberosLogin

/-- What a client needs for an exchange. None of it changes during one. -/
structure Client (ω ν κ χ : Type) where
  provider : SecurityProvider ω ν κ χ
  credentials : Credentials
  environment : CacheEnvironment

namespace Client

variable {ω ν κ χ α : Type}

/-- An action of a client: it works on the exchange and on the provider's state. -/
abbrev Act (ω ν χ α : Type) : Type :=
  Action (Exchange χ × ω) (HandshakeNote ν) α

/-- Changes the exchange. -/
def update (change : Exchange χ → Exchange χ) : Act ω ν χ Unit :=
  Action.modify fun (exchange, shared) => (change exchange, shared)

/-- Runs an action on the context of the exchange. -/
def onContext (action : Action (χ × ω) ν α) : Act ω ν χ α where
  run := fun (exchange, shared) =>
    match exchange.context with
    | none => ⟨.error ⟨.protocolMisuse, "no security context"⟩, (exchange, shared), []⟩
    | some context =>
      let outcome := action.run (context, shared)
      ⟨outcome.result,
        ({ exchange with context := some outcome.state.1 }, outcome.state.2),
        outcome.notes.map .provider⟩

/-- Runs the body of an operation, if the operation is allowed now. When the body
fails, the failure is noted, the exchange has failed, and its context is gone. -/
def perform (operation : Operation) (body : Act ω ν χ α) : Act ω ν χ α where
  run := fun (exchange, shared) =>
    if exchange.state = operation.requiredState then
      let outcome := body.run ({ exchange with state := operation.workingState }, shared)
      match outcome.result with
      | .ok _ => outcome
      | .error error =>
        let (reached, shared') := outcome.state
        ⟨.error error, ({ reached with state := .failed, context := none }, shared'),
          outcome.notes ++ [.failed error reached.state]⟩
    else
      ⟨.error (operation.misuse exchange.state), (exchange, shared), []⟩

/-- Takes the output of a step into the exchange. -/
def record (output : StepOutput) : Act ω ν χ HandshakeOutcome := do
  update fun exchange =>
    { exchange with state := if output.complete then .established else .negotiating }
  Action.note (.stepped (output.token.elim 0 List.length) output.complete)
  match output.token with
  | some token => Action.note (.clientToken token)
  | none => pure ()
  return ⟨output.token, output.complete⟩

/-- The message with which a client closes: no protection of later messages, and
no limit on their size. -/
def closingMessage : Bytes := [1, 0, 0, 0]

variable (client : Client ω ν κ χ)

/-- What the client asks to authenticate as. A realm that the server leaves empty
is not asked for. -/
def request (challenge : Challenge) : IdentityRequest where
  username := client.credentials.username
  realm := challenge.realm?
  password := client.credentials.password

/-- The caller's own identity. It takes a user and a password, neither of them
empty. -/
def explicitIdentity? (challenge : Challenge) : Option EmbeddedIdentity :=
  match client.credentials.username, client.credentials.password with
  | some user, some password =>
    if user.isEmpty || password.expose.isEmpty then none
    else some ⟨user, challenge.realm?, password⟩
  | _, _ => none

/-- Selects what the context is initiated with. A provider that takes identities
as they are is never asked to resolve any. -/
def initiatorCredential (challenge : Challenge) :
    Action ω (HandshakeNote ν) (InitiatorCredential κ) :=
  if client.provider.capabilities.contains Capabilities.embeddedIdentity then
    match client.explicitIdentity? challenge with
    | some identity => do
      Action.note (.explicitIdentity identity.user identity.realm)
      return .embedded identity
    | none => do
      Action.note .logonSession
      return .default
  else do
    let resolved ← (client.provider.resolveCredentials (client.request challenge)
      client.environment).mapNotes .provider
    Action.note (.credentialsResolved resolved.principal resolved.reacquired)
    return .resolved resolved.handle

/-- Creates a context for a challenge and makes its first step. -/
def openContext (challenge : Challenge) : Action ω (HandshakeNote ν) (StepOutput × χ) := do
  Action.note (.challengeReceived challenge client.provider.name)
  let credential ← client.initiatorCredential challenge
  let context ← (client.provider.initiate challenge.servicePrincipal credential
    Requirements.handshake).mapNotes .provider
  ((client.provider.context.step none).withOwn context).mapNotes .provider

/-- Sends the password, for want of a service principal. -/
def fallBack : Act ω ν χ InitialResponse :=
  match client.credentials.password with
  | none =>
    Action.fail ⟨.credentialsUnavailable,
      "server sent no service principal and no password is available for fallback"⟩
  | some password => do
    Action.note .passwordFallback
    let payload ← ClearPassword.respond .clearPassword password
    update fun exchange => { exchange with state := .closed }
    return .passwordFallback payload

/-- Answers the server's first packet. -/
def answerFirst (initial : Option Bytes) : Act ω ν χ InitialResponse := do
  let challenge? ← Action.ofExcept
    ((Challenge.decodeOptional initial).mapError Challenge.Fault.toError)
  match challenge? with
  | none => client.fallBack
  | some challenge =>
    let (output, context) ← (client.openContext challenge).onSecond
    update fun exchange =>
      { exchange with context := some context, challenge := some challenge }
    return .kerberos (← record output)

/-- Answers a further token. -/
def answerToken (token : Option Bytes) : Act ω ν χ HandshakeOutcome := do
  record (← onContext (client.provider.context.step token))

/-- Answers the server's closing message. -/
def answerClosing (message : Bytes) : Act ω ν χ Bytes := do
  let complete ← onContext client.provider.context.askComplete
  if complete then
    let unwrapped ← onContext (client.provider.context.unwrap message)
    Action.note (.unwrapped unwrapped.length)
    Action.note (.closingMessage unwrapped)
    let wrapped ← onContext (client.provider.context.wrap closingMessage false)
    Action.note (.wrapped wrapped.length)
    update fun exchange => { exchange with state := .closed }
    return wrapped
  else
    Action.fail ⟨.protocolMisuse, "security context is not established"⟩

/-- Takes the server's first packet. -/
def begin (initial : Option Bytes) : Act ω ν χ InitialResponse :=
  perform .begin (client.answerFirst initial)

/-- Takes a further token of the server while the negotiation is incomplete. -/
def proceed (token : Option Bytes) : Act ω ν χ HandshakeOutcome :=
  perform .proceed (client.answerToken token)

/-- Takes the server's protected closing message and yields the client's, which
ends the exchange. -/
def close (message : Bytes) : Act ω ν χ Bytes :=
  perform .close (client.answerClosing message)

/-- The plugin that the client implements. -/
def plugin (_ : Client ω ν κ χ) : Plugin := .kerberos

/-- The client and its exchange as they are shown to a developer. -/
def shown (exchange : Exchange χ) : String :=
  Shown.openRecord "KerberosAuth"
    [("provider", Shown.quoted client.provider.name), ("credentials", client.credentials.shown),
     ("state", exchange.state.name),
     ("challenge", Shown.option Challenge.shown exchange.challenge)]

end Client

end KerberosLogin
