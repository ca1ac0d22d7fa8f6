import KerberosLogin.Proofs.Challenge
import KerberosLogin.Proofs.Handshake.Ending

/-! # What an exchange holds

Whether an exchange holds a challenge and a context follows from its state and
from what was answered. The challenge is the one that the first packet has set,
from the first answer to the end. An operation that needs the context has it.
-/

namespace KerberosLogin

variable {ω ν κ χ : Type}

namespace Client

variable {client : Client ω ν κ χ} {challenge : Challenge} {answered : List Exchanged}
  {events : List (ProviderEvent κ)} {complete : Bool} {exchange : Exchange χ}

namespace Negotiation

theorem decode_of_mem (hnegotiation : client.Negotiation challenge answered events complete)
    {initial : Option Bytes} {outcome : HandshakeOutcome}
    (hmem : (Call.begin initial, .ok (.initial (.kerberos outcome))) ∈ answered) :
    Challenge.decodeOptional initial = .ok (some challenge) := by
  induction hnegotiation with
  | opened hpacket =>
      cases List.mem_singleton.mp hmem
      exact hpacket
  | stepped _ _ _ ih =>
      rcases List.mem_append.mp hmem with hmem | hmem
      · exact ih hmem
      · cases List.mem_singleton.mp hmem

/-- The calls that follow it begin nothing. -/
theorem begun_append (hnegotiation : client.Negotiation challenge answered events complete)
    {later : List Exchanged} (hlater : ∀ reply ∈ later, reply.1.operation ≠ .begin) :
    (∃ initial outcome,
      (Call.begin initial, .ok (.initial (.kerberos outcome))) ∈ answered ++ later) ∧
    ∀ initial outcome,
      (Call.begin initial, .ok (.initial (.kerberos outcome))) ∈ answered ++ later →
        Challenge.decodeOptional initial = .ok (some challenge) := by
  constructor
  · obtain ⟨initial, outcome, hmem, _⟩ := hnegotiation.exists_begin
    exact ⟨initial, outcome, List.mem_append_left _ hmem⟩
  · intro initial outcome hmem
    rcases List.mem_append.mp hmem with hmem | hmem
    · exact hnegotiation.decode_of_mem hmem
    · exact absurd rfl (hlater _ hmem)

end Negotiation

/-! ## Holdings -/

/-- What an exchange holds, given the accepted calls and what has reached the
provider. -/
structure Holdings (answered : List Exchanged) (events : List (ProviderEvent κ))
    (exchange : Exchange χ) : Prop where
  start : exchange.state = .start → exchange.challenge = none ∧ exchange.context = none
  negotiating : exchange.state = .negotiating →
    (∃ challenge context, exchange = ⟨.negotiating, some challenge, some context⟩) ∧
      ∃ input output, ProviderEvent.lastStep? events = some (input, .ok output) ∧
        output.complete = false
  established : exchange.state = .established →
    (∃ challenge context, exchange = ⟨.established, some challenge, some context⟩) ∧
      ∃ input output, ProviderEvent.lastStep? events = some (input, .ok output) ∧
        output.complete = true
  closed : exchange.state = .closed →
    (exchange = ⟨.closed, none, none⟩ ∧ ∃ initial payload,
      (Call.begin initial, .ok (.initial (.passwordFallback payload))) ∈ answered) ∨
    ((∃ challenge context, exchange = ⟨.closed, some challenge, some context⟩) ∧
      ∃ message answer, (Call.close message, .ok (.closing answer)) ∈ answered)
  failed : exchange.state = .failed → exchange.context = none
  begun : (∃ challenge, exchange.challenge = some challenge) ↔
    ∃ initial outcome, (Call.begin initial, .ok (.initial (.kerberos outcome))) ∈ answered
  challenge : ∀ initial outcome,
    (Call.begin initial, .ok (.initial (.kerberos outcome))) ∈ answered →
      ∃ packet challenge, initial = some packet ∧ Challenge.decode packet = .ok challenge ∧
        challenge.servicePrincipal ≠ "" ∧ exchange.challenge = some challenge

namespace Dialogue

/-- Whether a challenge is held, and which one. -/
theorem begun (hdialogue : client.Dialogue answered events exchange) :
    (exchange.challenge = none ∧ ∀ initial outcome,
      (Call.begin initial, .ok (.initial (.kerberos outcome))) ∉ answered) ∨
    ∃ challenge, exchange.challenge = some challenge ∧
      (∃ initial outcome, (Call.begin initial, .ok (.initial (.kerberos outcome))) ∈ answered) ∧
      ∀ initial outcome, (Call.begin initial, .ok (.initial (.kerberos outcome))) ∈ answered →
        Challenge.decodeOptional initial = .ok (some challenge) := by
  cases hdialogue with
  | fresh => exact .inl ⟨rfl, fun _ _ => List.not_mem_nil⟩
  | unbegun | fellBack | unopened =>
      refine .inl ⟨rfl, fun _ _ hmem => ?_⟩
      cases List.mem_singleton.mp hmem
  | underway hnegotiation =>
      have hbegun := hnegotiation.begun_append (fun _ hmem => absurd hmem List.not_mem_nil)
      rw [List.append_nil] at hbegun
      exact .inr ⟨_, rfl, hbegun⟩
  | unstepped hnegotiation | unclosed hnegotiation | closed hnegotiation =>
      refine .inr ⟨_, rfl, hnegotiation.begun_append ?_⟩
      intro reply hreply
      rw [List.mem_singleton.mp hreply]
      exact nofun

theorem holdings (hdialogue : client.Dialogue answered events exchange) :
    Holdings answered events exchange where
  start hstate := by
    obtain ⟨_, _, rfl⟩ := hdialogue.of_start hstate
    exact ⟨rfl, rfl⟩
  negotiating hstate := by
    obtain ⟨challenge, context, hnegotiation, rfl⟩ := hdialogue.of_negotiating hstate
    exact ⟨⟨challenge, context, rfl⟩, hnegotiation.lastStep?⟩
  established hstate := by
    obtain ⟨challenge, context, hnegotiation, rfl⟩ := hdialogue.of_established hstate
    exact ⟨⟨challenge, context, rfl⟩, hnegotiation.lastStep?⟩
  closed hstate := by
    cases hdialogue with
    | fellBack => exact .inl ⟨rfl, _, _, List.mem_singleton_self _⟩
    | @underway _ _ _ complete => cases complete <;> cases hstate
    | closed _ _ context =>
        exact .inr ⟨⟨_, context, rfl⟩, _, _, List.mem_append_right _ (List.mem_singleton_self _)⟩
    | _ => cases hstate
  failed hstate := by
    cases hdialogue with
    | @underway _ _ _ complete => cases complete <;> cases hstate
    | fellBack | closed => cases hstate
    | _ => rfl
  begun := by
    rcases hdialogue.begun with ⟨hnone, hnever⟩ | ⟨challenge, hsome, hbegun, _⟩
    · rw [hnone]
      exact ⟨nofun, fun ⟨initial, outcome, hmem⟩ => absurd hmem (hnever initial outcome)⟩
    · exact ⟨fun _ => hbegun, fun _ => ⟨challenge, hsome⟩⟩
  challenge initial outcome hmem := by
    rcases hdialogue.begun with ⟨_, hnever⟩ | ⟨challenge, hsome, _, hdecode⟩
    · exact absurd hmem (hnever initial outcome)
    · obtain ⟨packet, hinitial, hpacket, hprincipal⟩ :=
        Challenge.decodeOptional_eq_some_iff.mp (hdecode initial outcome hmem)
      exact ⟨packet, challenge, hinitial, hpacket, hprincipal, hsome⟩

end Dialogue

/-! ## The challenge stays -/

theorem Effect.challenge_eq {reached : Exchange χ} {call : Call}
    {answer : Except AuthError Answer}
    (heffect : client.Effect exchange call events answer reached)
    (hbegin : call.operation ≠ .begin) : reached.challenge = exchange.challenge := by
  cases heffect with
  | unreadable | withoutPassword | fellBack | unopened | opened => exact absurd rfl hbegin
  | unstepped | stepped | unclosed | closed => rfl

/-- A challenge that is held is held to the end. -/
theorem challenge_of_reached {calls : List Call} {shared : ω}
    (hchallenge : (client.watched.reached calls (fresh shared)).1.challenge = some challenge)
    (more : List Call) :
    (client.watched.reached (calls ++ more) (fresh shared)).1.challenge = some challenge := by
  induction more using List.reverseRecOn with
  | nil =>
      rw [List.append_nil]
      exact hchallenge
  | append_singleton more call ih =>
      have hdialogue := client.dialogue (calls ++ more) shared
      rw [← List.append_assoc, reached_snoc]
      generalize client.watched.reached (calls ++ more) (fresh shared) = state at ih hdialogue ⊢
      by_cases hstate : state.1.state = call.operation.requiredState
      · obtain ⟨later, hsettled⟩ :=
          client.visit_settled hstate (hdialogue.exists_context hstate)
        rw [hsettled.effect.challenge_eq ?_]
        · exact ih
        · intro hbegin
          -- Only a fresh exchange can be begun, and that has no challenge.
          have hcall : call.operation = .begin := hbegin
          rw [hcall] at hstate
          obtain ⟨_, _, hfresh⟩ := hdialogue.of_start hstate
          rw [hfresh] at ih
          cases ih
      · rw [outcome_of_refused _ hstate]
        exact ih

/-! ## The context is there -/

/-- The error of an operation that finds no context. -/
def noContext : AuthError :=
  ⟨.protocolMisuse, "no security context"⟩

theorem misuse_ne_noContext (operation : Operation) (state : HandshakeState) :
    operation.misuse state ≠ noContext := by
  cases operation <;> cases state <;> decide

theorem Cause.of_noContext {call : Call} (hcause : client.Cause call events noContext) :
    ∃ earlier event, events = earlier ++ [event] ∧ event.error? = some noContext := by
  generalize herror : noContext = error at hcause
  cases hcause with
  | unreadable => exact absurd (congrArg AuthError.kind herror) nofun
  | withoutPassword => exact absurd (congrArg AuthError.kind herror) nofun
  | unestablished => exact absurd herror (by decide)
  | provider earlier hevent => exact ⟨earlier, _, rfl, hevent⟩

/-- The error is never the client's own. -/
theorem exists_event_of_noContext {calls : List Call} {shared : ω}
    {visit : Visit (Written κ ω) ν χ}
    (hvisit : visit ∈ client.watched.history calls (fresh shared))
    (hresult : visit.outcome.result = .error noContext) :
    ∃ earlier event, written visit.outcome.state = written visit.before ++ earlier ++ [event] ∧
      event.error? = some noContext := by
  rcases visit_ends hvisit with hrefused | hadvanced | ⟨error, hbroken⟩
  · rw [hrefused.outcome, ← misuse_eq] at hresult
    exact absurd (Except.error.inj hresult) (misuse_ne_noContext _ _)
  · obtain ⟨answer, hanswer⟩ := hadvanced.result
    cases hanswer.symm.trans hresult
  · obtain ⟨events, hwritten, hcause⟩ := hbroken.cause
    cases hbroken.result.symm.trans hresult
    obtain ⟨earlier, event, rfl, herror⟩ := hcause.of_noContext
    rw [← List.append_assoc] at hwritten
    exact ⟨earlier, event, hwritten, herror⟩

/-- What an exchange holds at any point of a run. The challenge is the one that the
first packet has set, and it stays; an operation that needs the context finds it, so
that a complaint about its absence can only be the provider's. -/
theorem reached_holdings (client : Client ω ν κ χ) (calls : List Call) (shared : ω) :
    (client.watched.history calls (fresh shared)).map (fun visit => unwatched visit.outcome) =
        client.run calls ({}, shared) ∧
      Holdings (client.watched.answered calls (fresh shared))
        (written (client.watched.reached calls (fresh shared)))
        (client.watched.reached calls (fresh shared)).1 ∧
      (∀ more challenge,
        (client.watched.reached calls (fresh shared)).1.challenge = some challenge →
          (client.watched.reached (calls ++ more) (fresh shared)).1.challenge = some challenge) ∧
      (∀ visit ∈ client.watched.history calls (fresh shared),
        visit.before.1.state = visit.call.operation.requiredState →
          visit.call.operation ≠ .begin → ∃ context, visit.before.1.context = some context) ∧
      ∀ visit ∈ client.watched.history calls (fresh shared),
        visit.outcome.result = .error noContext →
          ∃ earlier event,
            written visit.outcome.state = written visit.before ++ earlier ++ [event] ∧
              event.error? = some noContext := by
  refine ⟨client.map_unwatched_history calls {} [] shared, (client.dialogue calls shared).holdings,
    fun more _ hchallenge => challenge_of_reached hchallenge more, ?_,
    fun _ => exists_event_of_noContext⟩
  intro visit hvisit hstate hbegin
  obtain ⟨earlier, call, later, rfl, rfl⟩ := client.watched.exists_of_mem_history hvisit
  exact (client.dialogue earlier shared).exists_context hstate hbegin

end Client

end KerberosLogin
