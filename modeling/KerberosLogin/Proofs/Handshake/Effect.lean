import KerberosLogin.Proofs.Handshake.Trace

/-! # What one call does

An allowed call ends in one of nine ways. Each of them is described by what
reaches the provider, by the result, and by the exchange that is left. Nothing
more has to be known of a call to follow a run.
-/

namespace KerberosLogin

variable {σ ω ν κ χ α β : Type}

/-- The exchange after a failure. -/
def Exchange.broken (exchange : Exchange χ) : Exchange χ :=
  { exchange with state := .failed, context := none }

/-- The state that a step leads to. -/
def HandshakeState.ofComplete (complete : Bool) : HandshakeState :=
  if complete then .established else .negotiating

/-- What the caller is told of a step. -/
def StepOutput.outcome (output : StepOutput) : HandshakeOutcome :=
  ⟨output.token, output.complete⟩

namespace Client

variable (client : Client ω ν κ χ)

/-- Whether the provider takes identities as they are. -/
def embeds : Bool :=
  client.provider.capabilities.contains Capabilities.embeddedIdentity

/-- The credential for a provider that takes identities as they are. -/
def ownCredential (challenge : Challenge) : InitiatorCredential κ :=
  match client.explicitIdentity? challenge with
  | some identity => .embedded identity
  | none => .default

/-- What reaches the provider while a credential is selected, and the credential. -/
inductive Selection (challenge : Challenge) :
    List (ProviderEvent κ) → Except AuthError (InitiatorCredential κ) → Prop where
  | own (hembeds : client.embeds = true) :
      Selection challenge [] (.ok (client.ownCredential challenge))
  | resolved (hembeds : client.embeds = false)
      (answer : Except AuthError (ResolvedCredentials κ)) :
      Selection challenge [.resolve (client.request challenge) client.environment answer]
        (answer.map fun resolved => .resolved resolved.handle)

/-- What reaches the provider while a context is opened, and the first step's
output. -/
inductive Opening (challenge : Challenge) :
    List (ProviderEvent κ) → Except AuthError StepOutput → Prop where
  | unselected {events : List (ProviderEvent κ)} {error : AuthError}
      (hselection : client.Selection challenge events (.error error)) :
      Opening challenge events (.error error)
  | uninitiated {events : List (ProviderEvent κ)} {credential : InitiatorCredential κ}
      (hselection : client.Selection challenge events (.ok credential)) (error : AuthError) :
      Opening challenge
        (events ++ [.initiate challenge.servicePrincipal credential Requirements.handshake
          (.error error)])
        (.error error)
  | stepped {events : List (ProviderEvent κ)} {credential : InitiatorCredential κ}
      (hselection : client.Selection challenge events (.ok credential))
      (answer : Except AuthError StepOutput) :
      Opening challenge
        (events ++ [.initiate challenge.servicePrincipal credential Requirements.handshake
          (.ok ()), .step none answer])
        answer

/-- What reaches the context while the exchange is closed, and the message for the
server. -/
inductive Closing (message : Bytes) :
    List (ProviderEvent κ) → Except AuthError Bytes → Prop where
  | unestablished :
      Closing message [.asked false]
        (.error ⟨.protocolMisuse, "security context is not established"⟩)
  | unverified (error : AuthError) :
      Closing message [.asked true, .unwrap message (.error error)] (.error error)
  | verified (plain : Bytes) (answer : Except AuthError Bytes) :
      Closing message
        [.asked true, .unwrap message (.ok plain), .wrap [1, 0, 0, 0] false answer] answer

/-- How an allowed call ends. -/
inductive Effect (exchange : Exchange χ) :
    Call → List (ProviderEvent κ) → Except AuthError Answer → Exchange χ → Prop where
  | unreadable {initial : Option Bytes} {fault : Challenge.Fault}
      (hpacket : Challenge.decodeOptional initial = .error fault) :
      Effect exchange (.begin initial) [] (.error fault.toError) exchange.broken
  | withoutPassword {initial : Option Bytes}
      (hpacket : Challenge.decodeOptional initial = .ok none)
      (hpassword : client.credentials.password = none) :
      Effect exchange (.begin initial) []
        (.error ⟨.credentialsUnavailable,
          "server sent no service principal and no password is available for fallback"⟩)
        exchange.broken
  | fellBack {initial : Option Bytes} {password : Password}
      (hpacket : Challenge.decodeOptional initial = .ok none)
      (hpassword : client.credentials.password = some password) :
      Effect exchange (.begin initial) []
        (.ok (.initial (.passwordFallback (ClearPassword.payload password))))
        { exchange with state := .closed }
  | unopened {initial : Option Bytes} {challenge : Challenge} {events : List (ProviderEvent κ)}
      {error : AuthError} (hpacket : Challenge.decodeOptional initial = .ok (some challenge))
      (hopening : client.Opening challenge events (.error error)) :
      Effect exchange (.begin initial) events (.error error) exchange.broken
  | opened {initial : Option Bytes} {challenge : Challenge} {events : List (ProviderEvent κ)}
      {output : StepOutput} (hpacket : Challenge.decodeOptional initial = .ok (some challenge))
      (hopening : client.Opening challenge events (.ok output)) (context : χ) :
      Effect exchange (.begin initial) events (.ok (.initial (.kerberos output.outcome)))
        ⟨.ofComplete output.complete, some challenge, some context⟩
  | unstepped (token : Option Bytes) (error : AuthError) :
      Effect exchange (.proceed token) [.step token (.error error)] (.error error) exchange.broken
  | stepped (token : Option Bytes) (output : StepOutput) (context : χ) :
      Effect exchange (.proceed token) [.step token (.ok output)] (.ok (.outcome output.outcome))
        ⟨.ofComplete output.complete, exchange.challenge, some context⟩
  | unclosed {message : Bytes} {events : List (ProviderEvent κ)} {error : AuthError}
      (hclosing : Closing message events (.error error)) :
      Effect exchange (.close message) events (.error error) exchange.broken
  | closed {message : Bytes} {events : List (ProviderEvent κ)} {answer : Bytes}
      (hclosing : Closing message events (.ok answer)) (context : χ) :
      Effect exchange (.close message) events (.ok (.closing answer))
        ⟨.closed, exchange.challenge, some context⟩

/-! ## Opening a context -/

variable {client}

theorem initiatorCredential_adds (challenge : Challenge) (state : Written κ ω) :
    (client.watched.initiatorCredential challenge).Adds Prod.fst state fun events answer _ =>
      client.Selection challenge events answer := by
  have hcapabilities : client.watched.provider.capabilities.contains
      Capabilities.embeddedIdentity = client.embeds := rfl
  have hidentity : client.watched.explicitIdentity? challenge =
      client.explicitIdentity? challenge := rfl
  rw [initiatorCredential, hcapabilities, hidentity]
  cases hembeds : client.embeds with
  | true =>
      have hown : client.Selection challenge [] (.ok (client.ownCredential challenge)) :=
        .own hembeds
      rw [ownCredential] at hown
      rw [if_pos rfl]
      cases hexplicit : client.explicitIdentity? challenge with
      | none =>
          rw [hexplicit] at hown
          exact .note_bind rfl (.pure hown)
      | some identity =>
          rw [hexplicit] at hown
          exact .note_bind rfl (.pure hown)
  | false =>
      rw [if_neg Bool.false_ne_true]
      have hresolve : ((client.watched.provider.resolveCredentials
          (client.watched.request challenge) client.watched.environment).mapNotes
          HandshakeNote.provider).Adds Prod.fst state fun events answer _ =>
            client.Selection challenge events
              (answer.map fun resolved => .resolved resolved.handle) :=
        .watched _ fun answer _ => .resolved hembeds answer
      refine hresolve.bind (fun _ _ _ hanswer => hanswer) fun events resolved _ hanswer => ?_
      refine .note_bind rfl (.pure ?_)
      rw [List.append_nil]
      exact hanswer

theorem openContext_adds (challenge : Challenge) (state : Written κ ω) :
    (client.watched.openContext challenge).Adds Prod.fst state fun events answer _ =>
      client.Opening challenge events (answer.map Prod.fst) := by
  refine .note_bind rfl ?_
  refine (initiatorCredential_adds challenge state).bind (fun _ _ _ => .unselected) ?_
  intro events credential reached hselection
  have hinitiate : ((client.watched.provider.initiate challenge.servicePrincipal credential
      Requirements.handshake).mapNotes HandshakeNote.provider).Adds Prod.fst reached
      fun later answer _ => later = [.initiate challenge.servicePrincipal credential
        Requirements.handshake (answer.map fun _ => ())] :=
    .watched (fun answer => .initiate challenge.servicePrincipal credential
      Requirements.handshake (answer.map fun _ => ())) fun _ _ => rfl
  refine hinitiate.bind ?_ ?_
  · rintro _ error _ rfl
    exact .uninitiated hselection error
  · rintro _ context reached' rfl
    refine .withOwn (.step none) fun answer context' _ => ?_
    have hstepped := Opening.stepped hselection answer
    cases answer with
    | error error => exact hstepped
    | ok output => exact hstepped

/-! ## The operations -/

theorem onContext_adds (event : Except AuthError α → ProviderEvent κ)
    {action : Action (χ × ω) ν α} {exchange : Exchange χ} {context : χ}
    (hcontext : exchange.context = some context) (state : Written κ ω) :
    (onContext (action.watchedOn event)).Adds written (exchange, state)
      fun events answer reached =>
        events = [event answer] ∧ ∃ last, reached.1 = { exchange with context := some last } := by
  rw [Action.Adds, onContext]
  simp only [hcontext]
  exact ⟨[_], rfl, ⟨rfl, _, rfl⟩, HandshakeNote.filterMap_failure?_provider _⟩

theorem askComplete_adds {exchange : Exchange χ} {context : χ}
    (hcontext : exchange.context = some context) (state : Written κ ω) :
    (onContext client.watched.provider.context.askComplete).Adds written (exchange, state)
      fun events answer reached =>
        (∃ complete, events = [.asked complete] ∧ answer = .ok complete) ∧
          ∃ last, reached.1 = { exchange with context := some last } := by
  rw [Action.Adds, onContext]
  simp only [hcontext]
  exact ⟨[_], rfl, ⟨⟨_, rfl, rfl⟩, _, rfl⟩, HandshakeNote.filterMap_failure?_provider _⟩

theorem update_bind_adds {change : Exchange χ → Exchange χ} {exchange : Exchange χ}
    {next : Unit → Act (Written κ ω) ν χ α} {state : Written κ ω}
    {finish : Action.Finish (Exchange χ × Written κ ω) κ α}
    (hnext : (next ()).Adds written (change exchange, state) finish) :
    (update change >>= next).Adds written (exchange, state) finish :=
  hnext

theorem record_adds (output : StepOutput) {exchange : Exchange χ} {state : Written κ ω}
    {finish : Action.Finish (Exchange χ × Written κ ω) κ HandshakeOutcome}
    (hfinish : finish [] (.ok output.outcome)
      ({ exchange with state := .ofComplete output.complete }, state)) :
    (record output : Act _ ν χ _).Adds written (exchange, state) finish := by
  obtain ⟨_ | token, complete⟩ := output
  · exact update_bind_adds (.note_bind rfl (.pure hfinish))
  · exact update_bind_adds (.note_bind rfl (.note_bind rfl (.pure hfinish)))

/-- How the body of an operation ends, before the operation is settled. -/
def Unsettled (client : Client ω ν κ χ) (exchange : Exchange χ) (call : Call)
    (events : List (ProviderEvent κ)) (answer : Except AuthError Answer) (reached : Exchange χ) :
    Prop :=
  match answer with
  | .ok _ => client.Effect exchange call events answer reached
  | .error _ => client.Effect exchange call events answer exchange.broken ∧
      reached.state = call.operation.workingState ∧ reached.challenge = exchange.challenge

theorem fallBack_adds {exchange : Exchange χ} {initial : Option Bytes}
    (hpacket : Challenge.decodeOptional initial = .ok none) (state : Written κ ω) :
    client.watched.fallBack.Adds written ({ exchange with state := .awaitingChallenge }, state)
      fun events answer reached =>
        client.Unsettled exchange (.begin initial) events (answer.map .initial) reached.1 := by
  have hcredentials : client.watched.credentials = client.credentials := rfl
  rw [fallBack, hcredentials]
  cases hpassword : client.credentials.password with
  | none => exact .fail ⟨.withoutPassword hpacket hpassword, rfl, rfl⟩
  | some password =>
      refine .note_bind rfl ?_
      rw [ClearPassword.respond, bind_assoc]
      refine .note_bind rfl ?_
      rw [pure_bind]
      refine update_bind_adds (.pure ?_)
      exact Effect.fellBack hpacket hpassword

theorem answerFirst_adds (exchange : Exchange χ) (initial : Option Bytes) (state : Written κ ω) :
    (client.watched.answerFirst initial).Adds written
      ({ exchange with state := .awaitingChallenge }, state)
      fun events answer reached =>
        client.Unsettled exchange (.begin initial) events (answer.map .initial) reached.1 := by
  rw [answerFirst]
  rcases hpacket : Challenge.decodeOptional initial with fault | _ | challenge
  · rw [Except.mapError, Action.ofExcept_error_bind]
    exact .fail ⟨.unreadable hpacket, rfl, rfl⟩
  · rw [Except.mapError, Action.ofExcept_ok_bind]
    exact fallBack_adds hpacket state
  · rw [Except.mapError, Action.ofExcept_ok_bind]
    -- The exchange is left alone until the first step has succeeded, so that an error
    -- before it has nothing to undo.
    refine (openContext_adds challenge state).onSecond.bind ?_ ?_
    · rintro events error ⟨_, _⟩ ⟨hopening, rfl⟩
      exact ⟨.unopened hpacket hopening, rfl, rfl⟩
    · rintro events ⟨output, context⟩ ⟨_, rest⟩ ⟨hopening, rfl⟩
      refine update_bind_adds ?_
      have hrecord : (record output : Act _ ν χ _).Adds written
          (⟨.awaitingChallenge, some challenge, some context⟩, rest)
          fun later answer reached => later = [] ∧ answer = .ok output.outcome ∧
            reached.1 = ⟨.ofComplete output.complete, some challenge, some context⟩ :=
        record_adds output ⟨rfl, rfl, rfl⟩
      refine hrecord.bind (fun _ _ _ ⟨_, hresult, _⟩ => nomatch hresult) ?_
      rintro _ _ ⟨_, _⟩ ⟨rfl, hresult, rfl⟩
      cases hresult
      refine .pure ?_
      rw [List.append_nil, List.append_nil]
      exact Effect.opened hpacket hopening context

theorem answerToken_adds {exchange : Exchange χ} {context : χ}
    (hcontext : exchange.context = some context) (token : Option Bytes) (state : Written κ ω) :
    (client.watched.answerToken token).Adds written ({ exchange with state := .negotiating }, state)
      fun events answer reached =>
        client.Unsettled exchange (.proceed token) events (answer.map .outcome) reached.1 := by
  rw [answerToken]
  refine (onContext_adds (.step token) (by exact hcontext) state).bind ?_ ?_
  · rintro _ error ⟨_, _⟩ ⟨rfl, _, rfl⟩
    exact ⟨.unstepped token error, rfl, rfl⟩
  · rintro _ output ⟨_, _⟩ ⟨rfl, last, rfl⟩
    exact record_adds output (.stepped token output last)

theorem answerClosing_adds {exchange : Exchange χ} {context : χ}
    (hcontext : exchange.context = some context) (message : Bytes) (state : Written κ ω) :
    (client.watched.answerClosing message).Adds written
      ({ exchange with state := .established }, state)
      fun events answer reached =>
        client.Unsettled exchange (.close message) events (answer.map .closing) reached.1 := by
  rw [answerClosing]
  refine (askComplete_adds (by exact hcontext) state).bind ?_ ?_
  · rintro _ _ _ ⟨⟨_, _, hresult⟩, _⟩
    cases hresult
  rintro _ complete ⟨_, asked⟩ ⟨⟨_, rfl, hresult⟩, _, rfl⟩
  cases hresult
  cases complete with
  | false => exact .fail ⟨.unclosed .unestablished, rfl, rfl⟩
  | true =>
      rw [if_pos rfl]
      refine (onContext_adds (.unwrap message) rfl asked).bind ?_ ?_
      · rintro _ error ⟨_, _⟩ ⟨rfl, _, rfl⟩
        exact ⟨.unclosed (.unverified error), rfl, rfl⟩
      rintro _ plain ⟨_, unwrapped⟩ ⟨rfl, _, rfl⟩
      refine .note_bind rfl (.note_bind rfl ?_)
      refine (onContext_adds (.wrap closingMessage false) rfl unwrapped).bind ?_ ?_
      · rintro _ error ⟨_, _⟩ ⟨rfl, _, rfl⟩
        exact ⟨.unclosed (.verified plain (.error error)), rfl, rfl⟩
      · rintro _ wrapped ⟨_, _⟩ ⟨rfl, last, rfl⟩
        refine .note_bind rfl (update_bind_adds (.pure ?_))
        exact .closed (.verified plain (.ok wrapped)) last

theorem body_adds {call : Call} {exchange : Exchange χ}
    (hcontext : call.operation ≠ .begin → ∃ context, exchange.context = some context)
    (state : Written κ ω) :
    (client.watched.body call).Adds written
      ({ exchange with state := call.operation.workingState }, state)
      fun events answer reached => client.Unsettled exchange call events answer reached.1 := by
  cases call with
  | begin initial => exact (answerFirst_adds exchange initial state).map
  | proceed token =>
      obtain ⟨context, hcontext⟩ := hcontext (nomatch ·)
      exact (answerToken_adds hcontext token state).map
  | close message =>
      obtain ⟨context, hcontext⟩ := hcontext (nomatch ·)
      exact (answerClosing_adds hcontext message state).map

/-- The record with which an accepted call reports its failure. -/
def Call.failureRecord (call : Call) (error : AuthError) : LogRecord :=
  let place := match call with
    | .begin _ => "AwaitingChallenge"
    | .proceed _ => "Negotiating"
    | .close _ => "Established"
  ⟨.debug, "Kerberos authentication failed",
    [("error", .text error.message), ("state", .text place)]⟩

/-- The records with which an accepted call reports its failure, if it fails. -/
def failures (call : Call) : Except AuthError Answer → List LogRecord
  | .ok _ => []
  | .error error => [call.failureRecord error]

theorem failure?_failed (call : Call) (error : AuthError) :
    (HandshakeNote.failed error call.operation.workingState : HandshakeNote ν).failure? =
      some (call.failureRecord error) := by
  cases call <;> rfl

/-- How an allowed call has ended, and that its failure was noted once. -/
structure Settled (client : Client ω ν κ χ) (visit : Visit (Written κ ω) ν χ)
    (events : List (ProviderEvent κ)) : Prop where
  effect : client.Effect visit.before.1 visit.call events visit.outcome.result
    visit.outcome.state.1
  written : written visit.outcome.state = written visit.before ++ events
  failures : visit.outcome.notes.filterMap HandshakeNote.failure? =
    failures visit.call visit.outcome.result

theorem visit_settled {call : Call} {state : Exchange χ × Written κ ω}
    (hstate : state.1.state = call.operation.requiredState)
    (hcontext : call.operation ≠ .begin → ∃ context, state.1.context = some context) :
    ∃ events, client.Settled (client.watched.visit call state) events := by
  obtain ⟨exchange, trace, shared⟩ := state
  obtain ⟨events, htrace, hfinish, hnotes⟩ := client.body_adds hcontext (trace, shared)
  refine ⟨events, ?_⟩
  rcases hbody : (client.watched.body call).run
    ({ exchange with state := call.operation.workingState }, trace, shared) with
    ⟨error | answer, ⟨reached, trace', shared'⟩, notes⟩
  · rw [hbody] at htrace hfinish hnotes
    -- The failed body may have used up the context but has kept state and challenge.
    obtain ⟨heffect, hreached, hchallenge⟩ := hfinish
    have hbroken : { reached with state := .failed, context := none } = exchange.broken :=
      congrArg (Exchange.mk .failed · none) hchallenge
    have hworking : reached.state = call.operation.workingState := hreached
    have hrun := run_perform_error hstate hbody
    rw [← call_eq_perform, hbroken, hworking] at hrun
    refine ⟨?_, ?_, ?_⟩ <;> dsimp only [visit] <;> rw [hrun]
    · exact heffect
    · exact htrace
    · rw [List.filterMap_append, hnotes, List.filterMap_cons_some (failure?_failed call error)]
      rfl
  · rw [hbody] at htrace hfinish hnotes
    have hrun := run_perform_ok hstate hbody
    rw [← call_eq_perform] at hrun
    refine ⟨?_, ?_, ?_⟩ <;> dsimp only [visit] <;> rw [hrun]
    · exact hfinish
    · exact htrace
    · exact hnotes

end Client

end KerberosLogin
