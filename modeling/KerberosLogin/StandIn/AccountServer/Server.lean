import KerberosLogin.StandIn.AccountServer.PasswordHash
import KerberosLogin.StandIn.AccountServer.SessionKey
import KerberosLogin.StandIn.AccountServer.UserName
import KerberosLogin.StandIn.Conversation

/-! # A server with one account

The server knows one account and challenges whoever greets it. It does not compare
names: a proof tells its user and its domain, and the server looks only whether it was
made with the password that it knows. What the proof does not tell it takes from its own
account.

A proof that does not fit is refused, but the server has keys from then on, which are
not the client's. Where it cannot make keys at all it is of no use any more.
-/

namespace KerberosLogin

namespace StandIn

namespace AccountServer

/-- One direction of the messages as the server sees it. -/
structure Stream where
  position : Nat := 0
  sequence : Nat := 0

/-- How far the server has come with a client. -/
inductive Acceptance where
  | fresh
  | challenged
  /-- A proof has come, and a key with it, whether the proof was right or not. -/
  | keyed (key : SessionKey)
  /-- A proof has come, and there is no key for it. -/
  | stuck

/-- The server's state. -/
structure State where
  acceptance : Acceptance := .fresh
  sending : Stream := {}
  receiving : Stream := {}

/-- What the server knows. -/
structure Account where
  user : String
  /-- The domain; empty if the name of the user tells it, or if there is none. -/
  domain : String
  password : Password

/-- What counts of a field: the field itself, or the server's own value if the field is
empty. -/
def told (field : Bytes) (own : String) : String :=
  if field.isEmpty then own else Utf16.decodeLossy field

/-- The key for a proof. -/
def Account.keyFor? (account : Account) (proof : Token.Proof) : Option SessionKey := do
  let own ← UserName.read? account.user account.domain
  let hash ← PasswordHash.ofPassword? account.password
  let user := told proof.user own.account
  guard (!user.isEmpty)
  return .derive Token.challenge hash user (told proof.domain own.domain)

/-- The server takes a greeting, then a proof, and nothing else. -/
def accept (account : Account) (token : Option Bytes) (state : State) :
    Option (Option Bytes) × State :=
  match state.acceptance with
  | .fresh =>
    if token = some Token.greeting then
      (some (some Token.challenge), { state with acceptance := .challenged })
    else (none, state)
  | .challenged =>
    match token.bind Token.Proof.read? with
    | none => (none, state)
    | some proof =>
      match account.keyFor? proof with
      | none => (none, { state with acceptance := .stuck })
      | some key =>
        (if proof.evidence = key.evidence then some none else none,
          { state with acceptance := .keyed key })
  | .keyed _ | .stuck => (none, state)

/-- The server protects a message. -/
def wrap (payload : Bytes) (state : State) : Option Bytes × State :=
  match state.acceptance with
  | .keyed key =>
    let stream := state.sending
    (some (key.sealFor .toClient stream.position stream.sequence payload ++ payload),
      { state with sending :=
        ⟨stream.position + advanceBy payload.length, stream.sequence + 1⟩ })
  | _ => (none, state)

/-- The server verifies a message. -/
def unwrap (message : Bytes) (state : State) : Option Bytes × State :=
  match state.acceptance with
  | .keyed key =>
    let stream := state.receiving
    let position := stream.position + receivedBy message
    match key.opened? .toServer stream.position stream.sequence message with
    | some payload => (some payload, { state with receiving := ⟨position, stream.sequence + 1⟩ })
    | none => (none, { state with receiving := ⟨position, stream.sequence⟩ })
  | _ => (none, state)

/-- The server that knows an account. -/
def server (account : Account) : Server State :=
  ⟨accept account, wrap, unwrap⟩

end AccountServer

end StandIn

end KerberosLogin
