import KerberosLogin.Negotiate.Provider
import KerberosLogin.StandIn.AccountServer.PasswordHash
import KerberosLogin.StandIn.AccountServer.SessionKey
import KerberosLogin.StandIn.AccountServer.UserName
import KerberosLogin.StandIn.Conversation

/-! # A Negotiate package in memory

The package authenticates with a user and a password. It greets, reads a challenge, and
proves what it knows. It is satisfied then, so that it can be established with a server
that refuses the proof, or with a challenge that came from no server at all.
-/

namespace KerberosLogin

namespace StandIn

namespace AccountServer

/-- A failure without an explanation. -/
def failure : Negotiate.Fault := ⟨noDetail, false⟩

/-- How far a negotiation has come. -/
inductive Phase where
  | fresh
  | greeted
  | finished (key : SessionKey)

/-- The state of the package for one client. -/
structure Negotiation where
  /-- The identity that credentials were acquired for. -/
  identity : Option (UserName × Password) := none
  phase : Phase := .fresh
  /-- How many bytes of the stream to the server, and of the stream to the client,
  have gone by. -/
  sent : Nat := 0
  received : Nat := 0

namespace Negotiation

/-- The key under which the client protects messages. -/
def key (negotiation : Negotiation) : SessionKey :=
  match negotiation.phase with
  | .finished key => key
  | _ => ⟨[]⟩

/-- The key that answers a challenge. Nobody without an account, and nobody whose
password has no hash, can prove anything. -/
def keyFor? (name : UserName) (password : Password) (challenge : Bytes) : Option SessionKey := do
  guard (Token.isChallenge challenge && !name.account.isEmpty)
  let hash ← PasswordHash.ofPassword? password
  return .derive challenge hash name.account name.domain

/-- The token that proves who the client is. -/
def prove (name : UserName) (key : SessionKey) : Bytes :=
  Token.Proof.encode ⟨key.evidence, Utf16.encode name.account, Utf16.encode name.domain⟩

/-- The token that a client sends, and how far it has come then. Once it has greeted,
only a challenge helps. Credentials that are lent for the step are read again, and the
name has to survive that; what it was read as is used. -/
def next? (lent : Bool) (input : Option Bytes) (negotiation : Negotiation) :
    Option (Negotiate.Progress × Phase) := do
  let (acquired, password) ← negotiation.identity
  let reread := acquired.reread?
  guard (!lent || reread.isSome)
  match negotiation.phase with
  | .fresh => return (⟨.continueNeeded, Token.greeting⟩, .greeted)
  | .greeted =>
    let name := reread.getD acquired
    let key ← keyFor? name password (← input)
    return (⟨.done, prove name key⟩, .finished key)
  | .finished _ => none

/-- One step of the client. A step that fails changes nothing. -/
def advance (lent : Bool) (input : Option Bytes) (negotiation : Negotiation) :
    Except Negotiate.StepFault Negotiate.Progress × Negotiation :=
  match negotiation.next? lent input with
  | some (progress, phase) => (.ok progress, { negotiation with phase := phase })
  | none => (.error (.unresolved failure), negotiation)

end Negotiation

/-- The package. Credentials need an identity: there is no logon session. The
identity is kept, so that a client without a handle can go on. -/
def package {ω : Type} : Negotiate.Package ω UserName Unit Negotiation where
  newClient shared := (.ok {}, shared)
  username user realm shared :=
    ((UserName.read? user (realm.getD "")).elim (.error ⟨"mixed username format", false⟩) .ok,
      shared)
  acquire identity state :=
    match identity with
    | none => (.error failure, state)
    | some _ => (.ok (some ()), { state.1 with identity := identity }, state.2)
  advance _ _ input state :=
    let ((handle, negotiation), shared) := state
    let (answer, negotiation) := negotiation.advance handle.isSome input
    (answer, (handle, negotiation), shared)
  trailerSize state := (.ok SessionKey.sealSize, state)
  encrypt _ _ payload sequence state :=
    let (negotiation, shared) := state
    (.ok (negotiation.key.sealFor .toServer negotiation.sent sequence.toNat payload, payload),
      { negotiation with sent := negotiation.sent + advanceBy payload.length }, shared)
  decrypt message sequence state :=
    let (negotiation, shared) := state
    ((negotiation.key.opened? .toClient negotiation.received sequence.toNat message).elim
        (.error ⟨noDetail, true⟩) .ok,
      { negotiation with received := negotiation.received + receivedBy message }, shared)

end AccountServer

end StandIn

end KerberosLogin
