import KerberosLogin.ClearPassword
import KerberosLogin.Challenge
import KerberosLogin.Plugin
import KerberosLogin.SecurityContext

/-! # One exchange with a server

An exchange has a position, and once the server's challenge has been answered it
has the challenge and a security context. Three operations advance it. Each is
allowed in one position only; an operation that fails where it is allowed ends
the exchange, and nothing can be resumed from there.
-/

namespace KerberosLogin

/-- The position of an exchange. -/
inductive HandshakeState where
  /-- Nothing was received yet. -/
  | start
  /-- The first packet is being processed. -/
  | awaitingChallenge
  /-- Tokens are being exchanged. -/
  | negotiating
  /-- The context is established, and only closing remains. -/
  | established
  /-- The exchange is over. -/
  | closed
  /-- The exchange failed and cannot go on. -/
  | failed
  deriving DecidableEq

/-- The state's name. -/
def HandshakeState.name : HandshakeState → String
  | start => "Start"
  | awaitingChallenge => "AwaitingChallenge"
  | negotiating => "Negotiating"
  | established => "Established"
  | closed => "Closed"
  | failed => "Failed"

/-- The operations on an exchange. -/
inductive Operation where
  /-- Take the server's first packet. -/
  | begin
  /-- Take a further token of the server. -/
  | proceed
  /-- Take the server's closing message. -/
  | close
  deriving DecidableEq

namespace Operation

/-- The operation's name in diagnostics. -/
def name : Operation → String
  | begin => "begin"
  | proceed => "continue"
  | close => "close"

/-- The one state in which the operation is allowed. -/
def requiredState : Operation → HandshakeState
  | begin => .start
  | proceed => .negotiating
  | close => .established

/-- The state of the exchange while the operation works. -/
def workingState : Operation → HandshakeState
  | begin => .awaitingChallenge
  | proceed => .negotiating
  | close => .established

/-- The error of an operation that is called in a state where it is not allowed. -/
def misuse (operation : Operation) (state : HandshakeState) : AuthError :=
  ⟨.protocolMisuse, s!"cannot {operation.name} in state {state.name}"⟩

end Operation

/-- How far an exchange has come, with contexts `χ`. -/
structure Exchange (χ : Type) where
  state : HandshakeState := .start
  /-- The server's challenge, once it was answered. -/
  challenge : Option Challenge := none
  /-- The security context, while there is one. -/
  context : Option χ := none

/-- What one round of the negotiation yields. -/
structure HandshakeOutcome where
  /-- The bytes for the server, if there are any. -/
  response : Option Bytes
  /-- Whether the security context is established now. -/
  complete : Bool
  deriving DecidableEq

namespace HandshakeOutcome

/-- What the connection has to write. -/
def authData (outcome : HandshakeOutcome) : AuthData :=
  match outcome.response with
  | some token => .token token
  | none => .none

/-- The outcome as it is shown to a developer. -/
def shown (outcome : HandshakeOutcome) : String :=
  Shown.record "HandshakeOutcome"
    [("response", Shown.option Shown.bytes outcome.response),
     ("complete", Shown.bool outcome.complete)]

end HandshakeOutcome

/-- The answer to the server's first packet. -/
inductive InitialResponse where
  /-- The negotiation has begun. -/
  | kerberos (outcome : HandshakeOutcome)
  /-- The server offers no Kerberos, and the password is sent instead. -/
  | passwordFallback (payload : Bytes)
  deriving DecidableEq

namespace InitialResponse

/-- Whether the password is sent. -/
def isPasswordFallback : InitialResponse → Bool
  | kerberos _ => false
  | passwordFallback _ => true

/-- What the connection has to write. -/
def authData : InitialResponse → AuthData
  | kerberos outcome => outcome.authData
  | passwordFallback payload => .clearPassword payload

/-- The response as it is shown to a developer. -/
def shown : InitialResponse → String
  | kerberos outcome => Shown.call "Kerberos" outcome.shown
  | passwordFallback payload => Shown.call "PasswordFallback" (Shown.bytes payload)

end InitialResponse

/-- What is noted during an exchange. -/
inductive HandshakeNote (ν : Type) where
  /-- A note of the provider. -/
  | provider (entry : ν)
  /-- The server's challenge was read. -/
  | challengeReceived (challenge : Challenge) (provider : String)
  /-- The caller's own identity is handed to the provider. -/
  | explicitIdentity (user : String) (realm : Option String)
  /-- The provider uses its default credentials. -/
  | logonSession
  /-- The provider has resolved credentials. -/
  | credentialsResolved (principal : Principal) (reacquired : Bool)
  /-- The server offers no Kerberos, and the password will be sent. -/
  | passwordFallback
  /-- The payload with the password was built. -/
  | clearPassword (size : Nat)
  /-- A step of the negotiation was made; an absent token has size zero. -/
  | stepped (tokenSize : Nat) (complete : Bool)
  /-- The token for the server. -/
  | clientToken (token : Bytes)
  /-- The server's closing message was verified. -/
  | unwrapped (size : Nat)
  /-- The server's closing message. -/
  | closingMessage (message : Bytes)
  /-- The client's closing message was protected. -/
  | wrapped (size : Nat)
  /-- The exchange failed. -/
  | failed (error : AuthError) (state : HandshakeState)
  deriving DecidableEq

/-- What is logged of a note. The bytes of tokens and messages are told at the most
detailed level only. -/
def HandshakeNote.logRecord {ν : Type} (provider : ν → LogRecord) : HandshakeNote ν → LogRecord
  | .provider entry => provider entry
  | challengeReceived challenge name =>
    ⟨.debug, "received Kerberos challenge",
      [("spn", .text challenge.servicePrincipal), ("realm", .text challenge.realm),
       ("provider", .text name)]⟩
  | explicitIdentity user realm =>
    ⟨.debug, "using explicit identity",
      [("user", .text user), ("realm", .text (Shown.option Shown.quoted realm))]⟩
  | logonSession => ⟨.debug, "using logon session credentials", []⟩
  | credentialsResolved principal reacquired =>
    ⟨.debug, "credentials resolved",
      [("principal", .text principal.render), ("reacquired", .flag reacquired)]⟩
  | passwordFallback =>
    ⟨.warn, "no service principal from server; falling back to clear-text password, "
        ++ "which requires TLS",
      [("plugin", .text Plugin.clearPassword.name)]⟩
  | clearPassword size => ClearPassword.logRecord size
  | stepped tokenSize complete =>
    ⟨.debug, "negotiation step", [("token_len", .count tokenSize), ("complete", .flag complete)]⟩
  | clientToken token => ⟨.trace, "client token", [("token", .text (Shown.bytes token))]⟩
  | unwrapped size => ⟨.debug, "unwrapped server closing message", [("len", .count size)]⟩
  | closingMessage message =>
    ⟨.trace, "server closing message", [("message", .text (Shown.bytes message))]⟩
  | wrapped size => ⟨.debug, "wrapped client closing message", [("len", .count size)]⟩
  | failed error state =>
    ⟨.debug, "Kerberos authentication failed",
      [("error", .text error.message), ("state", .text state.name)]⟩

end KerberosLogin
