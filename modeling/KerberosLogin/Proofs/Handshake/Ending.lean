import KerberosLogin.Proofs.Handshake.Dialogue

/-! # How a call ends

A call is refused, or it takes the exchange forward, or it breaks it off. A
refused call leaves no trace. A call that breaks the exchange off passes on the
error that it has met and is the last one to be accepted.

What is due when, and the words of the errors, are written out here once more, so
that what is said of them does not hang on how a client finds them.
-/

namespace KerberosLogin

variable {ω ν κ χ : Type}

namespace HandshakeState

/-- The place of a state on the way through an exchange. A failed exchange is off
that way, and so is one in the middle of a call. -/
def rank? : HandshakeState → Option Nat
  | start => some 0
  | negotiating => some 1
  | established => some 2
  | closed => some 3
  | awaitingChallenge => none
  | failed => none

/-- Whether a state comes before another on the way. -/
def Precedes (state next : HandshakeState) : Prop :=
  ∃ place ∈ state.rank?, ∃ place' ∈ next.rank?, place < place'

/-- The word for a state. -/
def word : HandshakeState → String
  | start => "Start"
  | awaitingChallenge => "AwaitingChallenge"
  | negotiating => "Negotiating"
  | established => "Established"
  | closed => "Closed"
  | failed => "Failed"

/-- Whether an exchange is over. -/
def Over (state : HandshakeState) : Prop :=
  state = closed ∨ state = failed

theorem Over.ne_requiredState {state : HandshakeState} (hover : state.Over)
    (operation : Operation) : state ≠ operation.requiredState := by
  rcases hover with rfl | rfl <;> cases operation <;> exact nofun

theorem start_precedes_ofComplete (complete : Bool) : start.Precedes (ofComplete complete) := by
  cases complete with
  | false => exact ⟨0, rfl, 1, rfl, Nat.one_pos⟩
  | true => exact ⟨0, rfl, 2, rfl, Nat.two_pos⟩

end HandshakeState

namespace Client

/-- Where the error of an accepted call comes from, given what the call has made
reach the provider. -/
inductive Cause (client : Client ω ν κ χ) : Call → List (ProviderEvent κ) → AuthError → Prop where
  | unreadable {initial : Option Bytes} {fault : Challenge.Fault}
      (hpacket : Challenge.decodeOptional initial = .error fault) :
      Cause client (.begin initial) [] ⟨.malformedPacket, fault.diagnostic⟩
  | withoutPassword {initial : Option Bytes}
      (hpacket : Challenge.decodeOptional initial = .ok none)
      (hpassword : client.credentials.password = none) :
      Cause client (.begin initial) [] ⟨.credentialsUnavailable,
        "server sent no service principal and no password is available for fallback"⟩
  | unestablished (message : Bytes) :
      Cause client (.close message) [.asked false]
        ⟨.protocolMisuse, "security context is not established"⟩
  | provider {call : Call} {event : ProviderEvent κ} {error : AuthError}
      (earlier : List (ProviderEvent κ)) (herror : event.error? = some error) :
      Cause client call (earlier ++ [event]) error

/-- The word for a call. -/
def Call.word : Call → String
  | .begin _ => "begin"
  | .proceed _ => "continue"
  | .close _ => "close"

/-- The one state in which a call is due. -/
def Call.dueState : Call → HandshakeState
  | .begin _ => .start
  | .proceed _ => .negotiating
  | .close _ => .established

/-- A call out of order. -/
structure Refused (visit : Visit (Written κ ω) ν χ) : Prop where
  state : visit.before.1.state ≠ visit.call.dueState
  outcome : visit.outcome =
    ⟨.error ⟨.protocolMisuse,
        s!"cannot {visit.call.word} in state {visit.before.1.state.word}"⟩, visit.before, []⟩

/-- A call that takes the exchange forward. -/
structure Advanced (visit : Visit (Written κ ω) ν χ) : Prop where
  state : visit.before.1.state = visit.call.dueState
  result : ∃ answer, visit.outcome.result = .ok answer
  forward : visit.before.1.state.Precedes visit.outcome.state.1.state ∨
    (∃ token, visit.call = .proceed token) ∧ visit.outcome.state.1.state = .negotiating
  failures : visit.outcome.notes.filterMap HandshakeNote.failure? = []

/-- A call that breaks the exchange off. -/
structure BrokenOff (client : Client ω ν κ χ) (visit : Visit (Written κ ω) ν χ)
    (error : AuthError) : Prop where
  state : visit.before.1.state = visit.call.dueState
  result : visit.outcome.result = .error error
  cause : ∃ events, written visit.outcome.state = written visit.before ++ events ∧
    client.Cause visit.call events error
  exchange : visit.outcome.state.1 = ⟨.failed, visit.before.1.challenge, none⟩
  failures : visit.outcome.notes.filterMap HandshakeNote.failure? =
    [visit.call.failureRecord error]

variable {client : Client ω ν κ χ}

/-! ## The cause of a failure -/

theorem Selection.exists_error {challenge : Challenge} {events : List (ProviderEvent κ)}
    {error : AuthError} (hselection : client.Selection challenge events (.error error)) :
    ∃ earlier event, events = earlier ++ [event] ∧ event.error? = some error := by
  generalize hanswer : Except.error error = answer at hselection
  cases hselection with
  | own => cases hanswer
  | resolved _ answer =>
      cases answer with
      | ok _ => cases hanswer
      | error _ =>
          cases hanswer
          exact ⟨[], _, rfl, rfl⟩

theorem Opening.exists_error {challenge : Challenge} {events : List (ProviderEvent κ)}
    {error : AuthError} (hopening : client.Opening challenge events (.error error)) :
    ∃ earlier event, events = earlier ++ [event] ∧ event.error? = some error := by
  cases hopening with
  | unselected hselection => exact hselection.exists_error
  | uninitiated => exact ⟨_, _, rfl, rfl⟩
  | stepped => exact ⟨_, _, (List.append_assoc _ [_] [_]).symm, rfl⟩

theorem Closing.cause {message : Bytes} {events : List (ProviderEvent κ)} {error : AuthError}
    (hclosing : Closing message events (.error error)) :
    client.Cause (.close message) events error := by
  cases hclosing with
  | unestablished => exact .unestablished message
  | unverified => exact .provider [_] rfl
  | verified => exact .provider [_, _] rfl

theorem Effect.forward_or_cause {exchange reached : Exchange χ} {call : Call}
    {events : List (ProviderEvent κ)} {answer : Except AuthError Answer}
    (heffect : client.Effect exchange call events answer reached)
    (hstate : exchange.state = call.operation.requiredState) :
    (∃ value, answer = .ok value) ∧ (exchange.state.Precedes reached.state ∨
        (∃ token, call = .proceed token) ∧ reached.state = .negotiating) ∨
      ∃ error, answer = .error error ∧ client.Cause call events error ∧
        reached = exchange.broken := by
  -- Where a call is allowed depends on its operation alone, so the state before it is
  -- known in every case.
  rw [hstate]
  cases heffect with
  | unreadable hpacket => exact .inr ⟨_, rfl, .unreadable hpacket, rfl⟩
  | withoutPassword hpacket hpassword =>
      exact .inr ⟨_, rfl, .withoutPassword hpacket hpassword, rfl⟩
  | fellBack => exact .inl ⟨⟨_, rfl⟩, .inl ⟨0, rfl, 3, rfl, Nat.succ_pos 2⟩⟩
  | unopened _ hopening =>
      obtain ⟨earlier, event, rfl, herror⟩ := hopening.exists_error
      exact .inr ⟨_, rfl, .provider earlier herror, rfl⟩
  | opened => exact .inl ⟨⟨_, rfl⟩, .inl (HandshakeState.start_precedes_ofComplete _)⟩
  | unstepped token error => exact .inr ⟨_, rfl, .provider [] rfl, rfl⟩
  | stepped token output =>
      refine .inl ⟨⟨_, rfl⟩, ?_⟩
      cases output.complete with
      | false => exact .inr ⟨⟨token, rfl⟩, rfl⟩
      | true => exact .inl ⟨1, rfl, 2, rfl, Nat.one_lt_two⟩
  | unclosed hclosing => exact .inr ⟨_, rfl, hclosing.cause, rfl⟩
  | closed => exact .inl ⟨⟨_, rfl⟩, .inl ⟨2, rfl, 3, rfl, Nat.lt_succ_self 2⟩⟩

/-! ## One call -/

theorem requiredState_eq (call : Call) : call.operation.requiredState = call.dueState := by
  cases call <;> rfl

theorem misuse_eq (call : Call) (state : HandshakeState) : call.operation.misuse state =
    ⟨.protocolMisuse, s!"cannot {call.word} in state {state.word}"⟩ := by
  cases call <;> cases state <;> rfl

theorem Settled.advanced_or_brokenOff {visit : Visit (Written κ ω) ν χ}
    {events : List (ProviderEvent κ)} (hsettled : client.Settled visit events)
    (hstate : visit.before.1.state = visit.call.operation.requiredState) :
    Advanced visit ∨ ∃ error, client.BrokenOff visit error := by
  have hfailures := hsettled.failures
  have hdue := hstate.trans (requiredState_eq visit.call)
  rcases hsettled.effect.forward_or_cause hstate with
    ⟨⟨value, hresult⟩, hforward⟩ | ⟨error, hresult, hcause, hreached⟩
  · rw [hresult] at hfailures
    exact .inl ⟨hdue, ⟨value, hresult⟩, hforward, hfailures⟩
  · rw [hresult] at hfailures
    exact .inr ⟨error, hdue, hresult, ⟨events, hsettled.written, hcause⟩, hreached, hfailures⟩

theorem visit_ends {calls : List Call} {shared : ω} {visit : Visit (Written κ ω) ν χ}
    (hvisit : visit ∈ client.watched.history calls (fresh shared)) :
    Refused visit ∨ Advanced visit ∨ ∃ error, client.BrokenOff visit error := by
  by_cases hstate : visit.before.1.state = visit.call.operation.requiredState
  · obtain ⟨events, hsettled⟩ := exists_settled hvisit hstate
    exact .inr (hsettled.advanced_or_brokenOff hstate)
  · have houtcome := client.watched.outcome_of_mem_history hvisit hstate
    rw [requiredState_eq] at hstate
    rw [misuse_eq] at houtcome
    exact .inl ⟨hstate, houtcome⟩

/-! ## A whole run -/

/-- Nothing changes any more once an exchange is over. -/
theorem reached_of_over (client : Client ω ν κ χ) (calls : List Call) {state : Exchange χ × ω}
    (hover : state.1.state.Over) : client.reached calls state = state := by
  induction calls with
  | nil => rfl
  | cons call calls ih =>
      have hrefused : (client.call call).run state =
          ⟨.error (call.operation.misuse state.1.state), state, []⟩ :=
        client.outcome_of_refused (hover.ne_requiredState call.operation)
      rw [reached, hrefused]
      exact ih

theorem not_brokenOff_of_over {calls : List Call} {state : Exchange χ × Written κ ω}
    (hover : state.1.state.Over) {visit : Visit (Written κ ω) ν χ}
    (hvisit : visit ∈ client.watched.history calls state) (error : AuthError) :
    ¬ client.BrokenOff visit error := by
  obtain ⟨earlier, call, later, rfl, rfl⟩ := client.watched.exists_of_mem_history hvisit
  intro hbroken
  have hstate := hbroken.state
  rw [visit, client.watched.reached_of_over earlier hover, ← requiredState_eq] at hstate
  exact hover.ne_requiredState call.operation hstate

/-- At most one call of a run breaks the exchange off. -/
theorem pairwise_not_brokenOff (client : Client ω ν κ χ) (calls : List Call)
    (state : Exchange χ × Written κ ω) :
    (client.watched.history calls state).Pairwise fun earlier later =>
      ¬ ((∃ error, client.BrokenOff earlier error) ∧ ∃ error, client.BrokenOff later error) := by
  induction calls generalizing state with
  | nil => exact .nil
  | cons call calls ih =>
      refine List.pairwise_cons.mpr ⟨?_, ih _⟩
      -- The exchange is over after the first such call, so the later ones are refused.
      rintro later hlater ⟨⟨error, hbroken⟩, error', hbroken'⟩
      have hfailed : (client.watched.visit call state).outcome.state.1.state = .failed := by
        rw [hbroken.exchange]
      exact not_brokenOff_of_over (.inr hfailed) hlater error' hbroken'

theorem Dialogue.state_ne_awaitingChallenge {answered : List Exchanged}
    {events : List (ProviderEvent κ)} {exchange : Exchange χ}
    (hdialogue : client.Dialogue answered events exchange) :
    exchange.state ≠ .awaitingChallenge := by
  cases hdialogue with
  | @underway _ _ _ complete => cases complete <;> exact nofun
  | _ => exact nofun

/-- Each call of a run ends in exactly one of three ways. Nothing follows the end of
the exchange, at most one call breaks it off, and no call leaves it in the middle of
an operation. -/
theorem refused_or_advanced_or_brokenOff (client : Client ω ν κ χ) (calls : List Call)
    (shared : ω) :
    (client.watched.history calls (fresh shared)).map (fun visit => unwatched visit.outcome) =
        client.run calls ({}, shared) ∧
      (∀ visit ∈ client.watched.history calls (fresh shared),
        (Refused visit ∨ Advanced visit ∨ ∃ error, client.BrokenOff visit error) ∧
          ¬ (Refused visit ∧ Advanced visit) ∧
          ¬ (Refused visit ∧ ∃ error, client.BrokenOff visit error) ∧
          ¬ (Advanced visit ∧ ∃ error, client.BrokenOff visit error)) ∧
      (∀ more, (client.watched.reached calls (fresh shared)).1.state.Over →
        client.watched.reached (calls ++ more) (fresh shared) =
          client.watched.reached calls (fresh shared)) ∧
      (client.watched.history calls (fresh shared)).Pairwise (fun earlier later =>
        ¬ ((∃ error, client.BrokenOff earlier error) ∧ ∃ error, client.BrokenOff later error)) ∧
      (client.watched.reached calls (fresh shared)).1.state ≠ .awaitingChallenge := by
  refine ⟨client.map_unwatched_history calls {} [] shared, ?_, ?_,
    client.pairwise_not_brokenOff calls _,
    (client.dialogue calls shared).state_ne_awaitingChallenge⟩
  · intro visit hvisit
    refine ⟨visit_ends hvisit, ?_, ?_, ?_⟩
    · rintro ⟨hrefused, hadvanced⟩
      exact hrefused.state hadvanced.state
    · rintro ⟨hrefused, error, hbroken⟩
      exact hrefused.state hbroken.state
    · rintro ⟨hadvanced, error, hbroken⟩
      obtain ⟨answer, hresult⟩ := hadvanced.result
      cases hresult.symm.trans hbroken.result
  · intro more hover
    rw [reached_append, reached_of_over _ more hover]

end Client

end KerberosLogin
