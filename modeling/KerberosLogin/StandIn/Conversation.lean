import KerberosLogin.Handshake.Client
import KerberosLogin.StandIn.Checksum

/-! # Conversations with a server

A client at one end, a server at the other, and between them what they have sent:
the latest token of each, and all the protected messages of each in order. A
token of the server is taken by the step that it is given to; protected messages
stay and can be delivered again, or damaged on their way.

Tokens and protected messages are the affair of the two ends. An onlooker sees
whether there is a token, how long a message is, and what it said once the other
end has verified it.
-/

namespace KerberosLogin

namespace StandIn

/-- What a stand-in says where a library would explain its failure. -/
def noDetail : String := "no detail"

/-- A message without the explanation of a stand-in. -/
def withoutDetail (message : String) : String :=
  let chars := message.toList
  let explanation := (": " ++ noDetail).toList
  if explanation.isSuffixOf chars then
    String.ofList (chars.take (chars.length - explanation.length))
  else message

/-- The server's end. An operation that the server refuses yields nothing. -/
structure Server (ρ : Type) where
  /-- Takes a token and yields its reply, if there is one. -/
  accept : Option Bytes → ρ → Option (Option Bytes) × ρ
  /-- Protects a message for the client. -/
  wrap : Bytes → ρ → Option Bytes × ρ
  /-- Verifies a message of the client. -/
  unwrap : Bytes → ρ → Option Bytes × ρ

/-- The server's state, and what was sent. -/
structure Conversation (ρ : Type) where
  server : ρ
  clientToken : Option Bytes := none
  serverToken : Option Bytes := none
  clientMessages : List Bytes := []
  serverMessages : List Bytes := []

/-- What a step is given. -/
inductive Input where
  /-- The latest token of the server, which is gone then. -/
  | latest
  /-- Something else, while the server's token stays. -/
  | given (token : Option Bytes)

/-- A message that is delivered. -/
inductive Delivery where
  /-- A message of the server, by its number. -/
  | sent (number : Nat)
  /-- Any bytes. -/
  | raw (message : Bytes)

/-- What happens to a message on its way. -/
inductive Damage where
  | none
  /-- All bits of one byte change. -/
  | flip (index : Nat)
  /-- Only the first bytes arrive. -/
  | keep (count : Nat)

/-- The message that arrives. -/
def Damage.apply (damage : Damage) (message : Bytes) : Bytes :=
  match damage with
  | none => message
  | flip index => message.modify index (· ^^^ 0xFF)
  | keep count => message.take count

/-- What an onlooker sees of an operation. -/
inductive Observation where
  /-- The client made a step. -/
  | token (present complete : Bool)
  /-- A message was verified, or a password sent. -/
  | payload (content : Bytes)
  /-- A message was protected. -/
  | size (count : Nat)
  /-- The server took a token. -/
  | reply (present : Bool)
  /-- The server refuses. -/
  | refusal
  /-- The client shows itself to a developer. -/
  | shown (text : String)
  deriving DecidableEq

/-- What is seen of a step. An empty token is none. -/
def Observation.ofToken (token : Option Bytes) (complete : Bool) : Observation :=
  .token (!(token.getD []).isEmpty) complete

namespace Conversation

variable {ρ σ ω ν κ χ : Type}

/-- An operation of one of the ends; the client's state is `σ`. -/
abbrev Act (ρ σ ν α : Type) : Type :=
  Action (Conversation ρ × σ) ν α

/-- Changes what was sent. -/
def update (change : Conversation ρ → Conversation ρ) : Act ρ σ ν Unit :=
  Action.modify fun (conversation, client) => (change conversation, client)

/-- The token that a step is given. -/
def takeToken : Input → Act ρ σ ν (Option Bytes)
  | .given token => return token
  | .latest => do
    let (conversation, _) ← Action.get
    update fun conversation => { conversation with serverToken := none }
    return conversation.serverToken

/-- The message that is delivered. A number that no message has delivers an empty
one. -/
def deliver (delivery : Delivery) (damage : Damage) : Act ρ σ ν Bytes := do
  let (conversation, _) ← Action.get
  return damage.apply <| match delivery with
    | .sent number => conversation.serverMessages.getD number []
    | .raw message => message

/-- Sends a token of the client, or nothing in its place. -/
def sendToken (token : Option Bytes) (complete : Bool) : Act ρ σ ν Observation := do
  update fun conversation => { conversation with clientToken := token }
  return .ofToken token complete

/-- Sends a protected message of the client. -/
def sendMessage (message : Bytes) : Act ρ σ ν Observation := do
  update fun conversation =>
    { conversation with clientMessages := conversation.clientMessages ++ [message] }
  return .size message.length

/-- Shows the client. -/
def showClient (shown : σ → String) : Act ρ σ ν Observation := do
  let (_, client) ← Action.get
  return .shown (shown client)

section Serving

variable (server : Server ρ)

/-- An operation of the server, and what to do with its answer. -/
def serve {α : Type} (operation : ρ → Option α × ρ) (next : α → Act ρ σ ν Observation) :
    Act ρ σ ν Observation := do
  let (conversation, _) ← Action.get
  let (answer, state) := operation conversation.server
  update fun conversation => { conversation with server := state }
  match answer with
  | some answer => next answer
  | none => return .refusal

/-- The server takes the client's latest token. -/
def accept : Act ρ σ ν Observation := do
  let (conversation, _) ← Action.get
  serve (server.accept conversation.clientToken) fun reply => do
    update fun conversation => { conversation with serverToken := reply }
    return .reply reply.isSome

/-- The server protects a message. -/
def serverWrap (payload : Bytes) : Act ρ σ ν Observation :=
  serve (server.wrap payload) fun message => do
    update fun conversation =>
      { conversation with serverMessages := conversation.serverMessages ++ [message] }
    return .size message.length

/-- The server verifies a message of the client, by its number. -/
def serverUnwrap (number : Nat) : Act ρ σ ν Observation := do
  let (conversation, _) ← Action.get
  serve (server.unwrap (conversation.clientMessages.getD number [])) fun payload =>
    return .payload payload

end Serving

section Stepping

variable (operations : SecurityContext ω ν χ)

/-- Steps a context. -/
def step (input : Input) : Act ρ (χ × ω) ν Observation := do
  let token ← takeToken input
  let output ← (operations.step token).onSecond
  sendToken output.token output.complete

/-- Protects a message with a context. -/
def wrap (payload : Bytes) (encrypt : Bool) : Act ρ (χ × ω) ν Observation := do
  sendMessage (← (operations.wrap payload encrypt).onSecond)

/-- Delivers a message to a context. -/
def unwrap (delivery : Delivery) (damage : Damage) : Act ρ (χ × ω) ν Observation := do
  let message ← deliver delivery damage
  return .payload (← (operations.unwrap message).onSecond)

end Stepping

section Handshaking

variable (client : Client ω ν κ χ)

/-- Begins an exchange. -/
def begin (initial : Option Bytes) : Act ρ (Exchange χ × ω) (HandshakeNote ν) Observation := do
  match ← (client.begin initial).onSecond with
  | .kerberos outcome => sendToken outcome.response outcome.complete
  | .passwordFallback payload => return .payload payload

/-- Goes on with an exchange. -/
def proceed (input : Input) : Act ρ (Exchange χ × ω) (HandshakeNote ν) Observation := do
  let token ← takeToken input
  let outcome ← (client.proceed token).onSecond
  sendToken outcome.response outcome.complete

/-- Closes an exchange with a message that is delivered. -/
def close (delivery : Delivery) (damage : Damage) :
    Act ρ (Exchange χ × ω) (HandshakeNote ν) Observation := do
  let message ← deliver delivery damage
  sendMessage (← (client.close message).onSecond)

end Handshaking

end Conversation

end StandIn

end KerberosLogin
