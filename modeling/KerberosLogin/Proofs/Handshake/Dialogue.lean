import KerberosLogin.Proofs.Handshake.Effect
import Mathlib.Data.List.Induction

/-! # The course of a dialogue

From a fresh exchange a run takes one of a few courses. A course is told by the
accepted calls with their answers, by what has reached the provider, and by the
exchange that is left. Refused calls change none of these.
-/

namespace KerberosLogin

namespace Client

variable {ω ν κ χ : Type}

/-- An exchange over a watched provider that nothing has reached yet. -/
def fresh (shared : ω) : Exchange χ × Written κ ω :=
  ({}, [], shared)

variable (client : Client ω ν κ χ)

/-- A negotiation in which every step has succeeded, and whether the last one was
complete. -/
inductive Negotiation (challenge : Challenge) :
    List Exchanged → List (ProviderEvent κ) → Bool → Prop where
  | opened {initial : Option Bytes} {events : List (ProviderEvent κ)} {output : StepOutput}
      (hpacket : Challenge.decodeOptional initial = .ok (some challenge))
      (hopening : client.Opening challenge events (.ok output)) :
      Negotiation challenge [(.begin initial, .ok (.initial (.kerberos output.outcome)))] events
        output.complete
  | stepped {answered : List Exchanged} {events : List (ProviderEvent κ)}
      (hnegotiation : Negotiation challenge answered events false) (token : Option Bytes)
      (output : StepOutput) :
      Negotiation challenge (answered ++ [(.proceed token, .ok (.outcome output.outcome))])
        (events ++ [.step token (.ok output)]) output.complete

/-- The accepted calls, what has reached the provider, and the exchange. -/
inductive Dialogue : List Exchanged → List (ProviderEvent κ) → Exchange χ → Prop where
  | fresh : Dialogue [] [] {}
  | unbegun {initial : Option Bytes}
      (hpacket : ∀ challenge, Challenge.decodeOptional initial ≠ .ok (some challenge))
      (error : AuthError) :
      Dialogue [(.begin initial, .error error)] [] ⟨.failed, none, none⟩
  | fellBack {initial : Option Bytes} {password : Password}
      (hpacket : Challenge.decodeOptional initial = .ok none)
      (hpassword : client.credentials.password = some password) :
      Dialogue
        [(.begin initial, .ok (.initial (.passwordFallback (ClearPassword.payload password))))] []
        ⟨.closed, none, none⟩
  | unopened {initial : Option Bytes} {challenge : Challenge} {events : List (ProviderEvent κ)}
      {error : AuthError} (hpacket : Challenge.decodeOptional initial = .ok (some challenge))
      (hopening : client.Opening challenge events (.error error)) :
      Dialogue [(.begin initial, .error error)] events ⟨.failed, none, none⟩
  | underway {challenge : Challenge} {answered : List Exchanged}
      {events : List (ProviderEvent κ)} {complete : Bool}
      (hnegotiation : client.Negotiation challenge answered events complete) (context : χ) :
      Dialogue answered events ⟨.ofComplete complete, some challenge, some context⟩
  | unstepped {challenge : Challenge} {answered : List Exchanged}
      {events : List (ProviderEvent κ)}
      (hnegotiation : client.Negotiation challenge answered events false) (token : Option Bytes)
      (error : AuthError) :
      Dialogue (answered ++ [(.proceed token, .error error)])
        (events ++ [.step token (.error error)]) ⟨.failed, some challenge, none⟩
  | unclosed {challenge : Challenge} {answered : List Exchanged}
      {events later : List (ProviderEvent κ)} {message : Bytes} {error : AuthError}
      (hnegotiation : client.Negotiation challenge answered events true)
      (hclosing : Closing message later (.error error)) :
      Dialogue (answered ++ [(.close message, .error error)]) (events ++ later)
        ⟨.failed, some challenge, none⟩
  | closed {challenge : Challenge} {answered : List Exchanged}
      {events later : List (ProviderEvent κ)} {message answer : Bytes}
      (hnegotiation : client.Negotiation challenge answered events true)
      (hclosing : Closing message later (.ok answer)) (context : χ) :
      Dialogue (answered ++ [(.close message, .ok (.closing answer))]) (events ++ later)
        ⟨.closed, some challenge, some context⟩

variable {client} {answered : List Exchanged} {events : List (ProviderEvent κ)}
  {exchange : Exchange χ}

theorem Opening.exists_step {challenge : Challenge} {output : StepOutput}
    (hopening : client.Opening challenge events (.ok output)) :
    ∃ earlier credential, client.Selection challenge earlier (.ok credential) ∧
      events = earlier ++ [.initiate challenge.servicePrincipal credential Requirements.handshake
        (.ok ()), .step none (.ok output)] := by
  cases hopening with
  | stepped hselection => exact ⟨_, _, hselection, rfl⟩

theorem Negotiation.lastStep? {challenge : Challenge} {complete : Bool}
    (hnegotiation : client.Negotiation challenge answered events complete) :
    ∃ input output, ProviderEvent.lastStep? events = some (input, .ok output) ∧
      output.complete = complete := by
  cases hnegotiation with
  | opened _ hopening =>
      obtain ⟨earlier, credential, _, rfl⟩ := hopening.exists_step
      refine ⟨none, _, ?_, rfl⟩
      rw [List.append_cons]
      exact ProviderEvent.lastStep?_snoc_step _ _ _
  | stepped _ token output =>
      exact ⟨token, output, ProviderEvent.lastStep?_snoc_step _ _ _, rfl⟩

theorem Negotiation.exists_begin {challenge : Challenge} {complete : Bool}
    (hnegotiation : client.Negotiation challenge answered events complete) :
    ∃ initial outcome, (Call.begin initial, .ok (.initial (.kerberos outcome))) ∈ answered ∧
      Challenge.decodeOptional initial = .ok (some challenge) := by
  induction hnegotiation with
  | opened hpacket => exact ⟨_, _, List.mem_singleton_self _, hpacket⟩
  | stepped _ _ _ ih =>
      obtain ⟨initial, outcome, hmem, hpacket⟩ := ih
      exact ⟨initial, outcome, List.mem_append_left _ hmem, hpacket⟩

namespace Dialogue

/-! ## Where a call is allowed -/

theorem of_start (hdialogue : client.Dialogue answered events exchange)
    (hstate : exchange.state = .start) : answered = [] ∧ events = [] ∧ exchange = {} := by
  cases hdialogue with
  | fresh => exact ⟨rfl, rfl, rfl⟩
  | @underway _ _ _ complete => cases complete <;> cases hstate
  | _ => cases hstate

theorem of_negotiating (hdialogue : client.Dialogue answered events exchange)
    (hstate : exchange.state = .negotiating) :
    ∃ challenge context, client.Negotiation challenge answered events false ∧
      exchange = ⟨.negotiating, some challenge, some context⟩ := by
  cases hdialogue with
  | @underway challenge _ _ complete hnegotiation context =>
      cases complete with
      | false => exact ⟨challenge, context, hnegotiation, rfl⟩
      | true => cases hstate
  | _ => cases hstate

theorem of_established (hdialogue : client.Dialogue answered events exchange)
    (hstate : exchange.state = .established) :
    ∃ challenge context, client.Negotiation challenge answered events true ∧
      exchange = ⟨.established, some challenge, some context⟩ := by
  cases hdialogue with
  | @underway challenge _ _ complete hnegotiation context =>
      cases complete with
      | false => cases hstate
      | true => exact ⟨challenge, context, hnegotiation, rfl⟩
  | _ => cases hstate

/-- Where a call is allowed that needs a context, there is one. -/
theorem exists_context (hdialogue : client.Dialogue answered events exchange) {call : Call}
    (hstate : exchange.state = call.operation.requiredState)
    (hbegin : call.operation ≠ .begin) : ∃ context, exchange.context = some context := by
  cases call with
  | begin initial => exact absurd rfl hbegin
  | proceed token =>
      obtain ⟨_, context, _, rfl⟩ := hdialogue.of_negotiating hstate
      exact ⟨context, rfl⟩
  | close message =>
      obtain ⟨_, context, _, rfl⟩ := hdialogue.of_established hstate
      exact ⟨context, rfl⟩

/-! ## One call and all calls -/

/-- An allowed call takes a dialogue further. -/
theorem step (hdialogue : client.Dialogue answered events exchange) {call : Call}
    {later : List (ProviderEvent κ)} {answer : Except AuthError Answer} {reached : Exchange χ}
    (hstate : exchange.state = call.operation.requiredState)
    (heffect : client.Effect exchange call later answer reached) :
    client.Dialogue (answered ++ [(call, answer)]) (events ++ later) reached := by
  cases call with
  | begin initial =>
      obtain ⟨rfl, rfl, rfl⟩ := hdialogue.of_start hstate
      cases heffect with
      | unreadable hpacket => exact .unbegun (fun _ => hpacket ▸ nofun) _
      | withoutPassword hpacket => exact .unbegun (fun _ => hpacket ▸ nofun) _
      | fellBack hpacket hpassword => exact .fellBack hpacket hpassword
      | unopened hpacket hopening => exact .unopened hpacket hopening
      | opened hpacket hopening context => exact .underway (.opened hpacket hopening) context
  | proceed token =>
      obtain ⟨challenge, _, hnegotiation, rfl⟩ := hdialogue.of_negotiating hstate
      cases heffect with
      | unstepped _ error => exact .unstepped hnegotiation token error
      | stepped _ output context => exact .underway (.stepped hnegotiation token output) context
  | close message =>
      obtain ⟨challenge, _, hnegotiation, rfl⟩ := hdialogue.of_established hstate
      cases heffect with
      | unclosed hclosing => exact .unclosed hnegotiation hclosing
      | closed hclosing context => exact .closed hnegotiation hclosing context

end Dialogue

/-- Every run from a fresh exchange is a dialogue. -/
theorem dialogue (client : Client ω ν κ χ) (calls : List Call) (shared : ω) :
    client.Dialogue (client.watched.answered calls (fresh shared))
      (written (client.watched.reached calls (fresh shared)))
      (client.watched.reached calls (fresh shared)).1 := by
  -- The last call is made from where the others have led, and there it is known
  -- whether a context is held.
  induction calls using List.reverseRecOn with
  | nil => exact .fresh
  | append_singleton calls call ih =>
      rw [reached_snoc, answered_append]
      generalize client.watched.reached calls (fresh shared) = state at ih ⊢
      by_cases hstate : state.1.state = call.operation.requiredState
      · obtain ⟨events, hsettled⟩ := client.visit_settled hstate (ih.exists_context hstate)
        rw [answered_of_accepted _ hstate, hsettled.written]
        exact ih.step hstate hsettled.effect
      · rw [answered_of_refused _ hstate, outcome_of_refused _ hstate, List.append_nil]
        exact ih

/-- In a run from a fresh exchange, an accepted call ends in one of the ways listed. -/
theorem exists_settled {calls : List Call} {shared : ω} {visit : Visit (Written κ ω) ν χ}
    (hvisit : visit ∈ client.watched.history calls (fresh shared))
    (hstate : visit.before.1.state = visit.call.operation.requiredState) :
    ∃ events, client.Settled visit events := by
  obtain ⟨earlier, call, later, rfl, rfl⟩ := client.watched.exists_of_mem_history hvisit
  exact visit_settled hstate ((client.dialogue earlier shared).exists_context hstate)

end Client

end KerberosLogin
