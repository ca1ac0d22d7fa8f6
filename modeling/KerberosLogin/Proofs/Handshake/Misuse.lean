import KerberosLogin.Backend
import KerberosLogin.Proofs.Handshake.Dialogue
import KerberosLogin.Proofs.Regular

/-! # Providers are not misused

A provider of a backend can be asked for what the backend does not support, and a context for
what it cannot do yet. A client asks for neither, as long as the provider does its part: it
fails regularly where it is used as it is meant to be, and a step tells the truth about the
state it leads to. Then the guards of the client have nothing to guard against, except calls
that are out of order.
-/

namespace KerberosLogin

variable {σ ω ν κ χ α : Type}

/-- Whether a backend takes a call. GSSAPI resolves credentials, and Negotiate takes
identities as they are. -/
def Backend.Takes (backend : Backend) : ProviderCall κ → Prop
  | .resolve _ _ => backend = .gssapi
  | .initiate _ (.resolved _) _ => backend = .gssapi
  | .initiate _ (.embedded _) _ => backend = .negotiate
  | _ => True

theorem Backend.eq_gssapi_iff {backend : Backend} :
    backend = .gssapi ↔ backend ≠ .negotiate := by
  cases backend <;> simp

/-- Contexts that fail regularly where they are used in order, and whose steps tell whether
the context is established. -/
structure SecurityContext.Regular (operations : SecurityContext ω ν χ) : Prop where
  asked : ∀ context shared, operations.state context = .established →
    ∃ shared', operations.isComplete (context, shared) = (true, context, shared')
  step : ∀ input context shared, (operations.step input).Behaves (context, shared)
    fun output reached => operations.state reached.1 = .established ↔ output.complete = true
  unwrap : ∀ message context shared, operations.state context = .established →
    (operations.unwrap message).Behaves (context, shared) fun _ reached =>
      operations.state reached.1 = .established
  wrap : ∀ payload encrypt context shared, operations.state context = .established →
    (operations.wrap payload encrypt).Behaves (context, shared) fun _ _ => True

/-- A provider that fails regularly where it is used as its backend is. -/
structure SecurityProvider.Regular (backend : Backend) (provider : SecurityProvider ω ν κ χ) :
    Prop where
  embeds : provider.capabilities.contains Capabilities.embeddedIdentity = true ↔
    backend = .negotiate
  resolve : backend = .gssapi → ∀ request env shared,
    (provider.resolveCredentials request env).Behaves shared fun _ _ => True
  initiate : ∀ target credential requirements,
    backend.Takes (.initiate target credential requirements) → ∀ shared,
      (provider.initiate target credential requirements).Behaves shared fun _ _ => True
  context : provider.context.Regular

/-! ## Watching -/

theorem Action.Behaves.watched {action : Action ω ν α} {shared : ω} {finish : α → ω → Prop}
    (haction : action.Behaves shared finish) (event : Except AuthError α → ProviderEvent κ)
    (trace : List (ProviderEvent κ)) :
    (action.watched event).Behaves (trace, shared) fun value reached => finish value reached.2 :=
  haction

theorem Action.Behaves.watchedOn {action : Action (χ × ω) ν α} {context : χ} {shared : ω}
    {finish : α → χ × ω → Prop} (haction : action.Behaves (context, shared) finish)
    (event : Except AuthError α → ProviderEvent κ) (trace : List (ProviderEvent κ)) :
    (action.watchedOn event).Behaves (context, trace, shared) fun value reached =>
      finish value (reached.1, reached.2.2) :=
  haction

theorem SecurityContext.Regular.watched {operations : SecurityContext ω ν χ}
    (hoperations : operations.Regular) :
    (operations.watched : SecurityContext (Written κ ω) ν χ).Regular where
  asked := by
    rintro context ⟨trace, shared⟩ hstate
    obtain ⟨shared', hasked⟩ := hoperations.asked context shared hstate
    refine ⟨(trace ++ [.asked true], shared'), ?_⟩
    simp only [SecurityContext.watched, hasked]
  step input := by
    rintro context ⟨trace, shared⟩
    exact (hoperations.step input context shared).watchedOn _ trace
  unwrap message := by
    rintro context ⟨trace, shared⟩ hstate
    exact (hoperations.unwrap message context shared hstate).watchedOn _ trace
  wrap payload encrypt := by
    rintro context ⟨trace, shared⟩ hstate
    exact (hoperations.wrap payload encrypt context shared hstate).watchedOn _ trace

theorem SecurityProvider.Regular.watched {backend : Backend} {provider : SecurityProvider ω ν κ χ}
    (hprovider : provider.Regular backend) : provider.watched.Regular backend where
  embeds := hprovider.embeds
  resolve hbackend request env := by
    rintro ⟨trace, shared⟩
    exact (hprovider.resolve hbackend request env shared).watched _ trace
  initiate target credential requirements htakes := by
    rintro ⟨trace, shared⟩
    exact (hprovider.initiate target credential requirements htakes shared).watched
      (fun answer => .initiate target credential requirements (answer.map fun _ => ())) trace
  context := hprovider.context.watched

/-! ## One call -/

/-- Whether an exchange has the context that its state speaks of. -/
structure SecurityContext.Agrees (operations : SecurityContext ω ν χ) (exchange : Exchange χ) :
    Prop where
  negotiating : exchange.state = .negotiating → ∃ context, exchange.context = some context
  established : exchange.state = .established →
    ∃ context, exchange.context = some context ∧ operations.state context = .established

/-- In all other states nothing is said of a context. -/
theorem SecurityContext.agrees_of_state {operations : SecurityContext ω ν χ}
    {exchange : Exchange χ} (state : HandshakeState) (hstate : exchange.state = state)
    (hother : state ≠ .negotiating ∧ state ≠ .established := by decide) :
    operations.Agrees exchange := by
  subst hstate
  constructor
  case negotiating =>
    intro hnegotiating
    exact absurd hnegotiating hother.1
  case established =>
    intro hestablished
    exact absurd hestablished hother.2

theorem SecurityContext.agrees_ofComplete {operations : SecurityContext ω ν χ} {complete : Bool}
    {context : χ} (hstate : operations.state context = .established ↔ complete = true)
    (challenge : Option Challenge) :
    operations.Agrees ⟨.ofComplete complete, challenge, some context⟩ := by
  constructor
  case negotiating =>
    intro _
    exact ⟨context, rfl⟩
  case established =>
    intro hestablished
    cases complete with
    | false => cases hestablished
    | true => exact ⟨context, rfl, hstate.mpr rfl⟩

namespace Client

section Body

variable {client : Client ω ν κ χ} {backend : Backend}

theorem onContext_behaves {action : Action (χ × ω) ν α} {context : χ} {shared : ω}
    {finish : α → χ × ω → Prop} (haction : action.Behaves (context, shared) finish)
    {exchange : Exchange χ} (hcontext : exchange.context = some context) :
    (onContext action).Behaves (exchange, shared) fun value reached =>
      ∃ last, reached.1 = { exchange with context := some last } ∧
        finish value (last, reached.2) := by
  unfold Action.Behaves onContext at *
  simp only [hcontext]
  rcases hrun : action.run (context, shared) with ⟨error | value, reached, notes⟩
  · rw [hrun] at haction
    exact haction
  · rw [hrun] at haction
    exact ⟨reached.1, rfl, haction⟩

theorem record_behaves (output : StepOutput) (exchange : Exchange χ) (shared : ω) :
    (record output : Act ω ν χ _).Behaves (exchange, shared) fun _ reached =>
      reached.1 = { exchange with state := .ofComplete output.complete } := by
  rcases output with ⟨_ | token, complete⟩
  · exact .modify_bind (.note_bind (.pure rfl))
  · exact .modify_bind (.note_bind (.note_bind (.pure rfl)))

variable (hprovider : client.provider.Regular backend)
include hprovider

theorem initiatorCredential_behaves (challenge : Challenge) (shared : ω) :
    (client.initiatorCredential challenge).Behaves shared fun credential _ =>
      ∀ target requirements, backend.Takes (.initiate target credential requirements) := by
  unfold initiatorCredential
  split
  next hembeds =>
    have hbackend := hprovider.embeds.mp hembeds
    cases client.explicitIdentity? challenge with
    | none => exact .note_bind (.pure fun _ _ => trivial)
    | some identity => exact .note_bind (.pure fun _ _ => hbackend)
  next hembeds =>
    have hbackend := Backend.eq_gssapi_iff.mpr (mt hprovider.embeds.mpr hembeds)
    apply ((hprovider.resolve hbackend _ _ shared).mapNotes _).bind
    intro resolved reached _
    exact .note_bind (.pure fun _ _ => hbackend)

theorem openContext_behaves (challenge : Challenge) (shared : ω) :
    (client.openContext challenge).Behaves shared fun opened _ =>
      client.provider.context.state opened.2 = .established ↔ opened.1.complete = true := by
  apply Action.Behaves.note_bind
  apply (initiatorCredential_behaves hprovider challenge shared).bind
  intro credential selected htakes
  apply ((hprovider.initiate _ _ _ (htakes _ _) selected).mapNotes _).bind
  intro context initiated _
  exact .mapNotes _ (.withOwn (hprovider.context.step none context initiated))

theorem answerFirst_behaves (initial : Option Bytes) (exchange : Exchange χ) (shared : ω) :
    (client.answerFirst initial).Behaves ({ exchange with state := .awaitingChallenge }, shared)
      fun _ reached => client.provider.context.Agrees reached.1 := by
  unfold answerFirst
  rcases Challenge.decodeOptional initial with fault | _ | challenge
  · exact .fail (.of_kind .malformedPacket rfl)
  · rw [Except.mapError, Action.ofExcept_ok_bind]
    dsimp only
    unfold fallBack
    split
    next => exact .fail (.of_kind .credentialsUnavailable rfl)
    next =>
      apply Action.Behaves.note_bind
      rw [ClearPassword.respond, bind_assoc]
      apply Action.Behaves.note_bind
      rw [pure_bind]
      exact .modify_bind (.pure (SecurityContext.agrees_of_state .closed rfl))
  · rw [Except.mapError, Action.ofExcept_ok_bind]
    apply ((openContext_behaves hprovider challenge shared).onSecond _).bind
    rintro ⟨output, context⟩ ⟨_, opened⟩ ⟨rfl, hstate⟩
    apply Action.Behaves.modify_bind
    apply (record_behaves output _ opened).bind
    rintro outcome ⟨_, recorded⟩ rfl
    exact .pure (SecurityContext.agrees_ofComplete hstate _)

theorem answerToken_behaves (token : Option Bytes) {exchange : Exchange χ} {context : χ}
    (hcontext : exchange.context = some context) (shared : ω) :
    (client.answerToken token).Behaves ({ exchange with state := .negotiating }, shared)
      fun _ reached => client.provider.context.Agrees reached.1 := by
  have hstep := hprovider.context.step token context shared
  unfold answerToken
  apply (onContext_behaves hstep (by exact hcontext)).bind
  rintro output ⟨_, stepped⟩ ⟨last, rfl, hstate⟩
  apply (record_behaves output _ stepped).weaken
  rintro outcome ⟨_, recorded⟩ rfl
  exact SecurityContext.agrees_ofComplete hstate _

/-- A closing message finds the context established, and so does the answer to it. -/
theorem answerClosing_behaves (message : Bytes) {exchange : Exchange χ} {context : χ}
    (hcontext : exchange.context = some context)
    (hstate : client.provider.context.state context = .established) (shared : ω) :
    (client.answerClosing message).Behaves ({ exchange with state := .established }, shared)
      fun _ reached => client.provider.context.Agrees reached.1 := by
  -- The guard of the client goes by what the context answers, not by its state.
  obtain ⟨shared', hasked⟩ := hprovider.context.asked context shared hstate
  have hask : client.provider.context.askComplete.Behaves (context, shared)
      fun complete reached => complete = true ∧ reached.1 = context := by
    have hrun : client.provider.context.askComplete.run (context, shared) =
        ⟨.ok true, (context, shared'), []⟩ := by
      simp only [SecurityContext.askComplete, hasked]
    rw [Action.Behaves, hrun]
    exact ⟨rfl, rfl⟩
  unfold answerClosing
  apply (onContext_behaves hask (by exact hcontext)).bind
  rintro _ ⟨_, asked⟩ ⟨kept, rfl, rfl, hkept⟩
  rw [if_pos rfl]
  have hstate : client.provider.context.state kept = .established :=
    (congrArg client.provider.context.state hkept).trans hstate
  apply (onContext_behaves (hprovider.context.unwrap message kept asked hstate) rfl).bind
  rintro plain ⟨_, unwrapped⟩ ⟨last, rfl, hlast⟩
  apply Action.Behaves.note_bind
  apply Action.Behaves.note_bind
  apply (onContext_behaves (hprovider.context.wrap closingMessage false last unwrapped hlast)
    rfl).bind
  rintro wrapped ⟨_, finished⟩ ⟨final, rfl, -⟩
  apply Action.Behaves.note_bind
  exact .modify_bind (.pure (SecurityContext.agrees_of_state .closed rfl))

theorem body_behaves {call : Call} {exchange : Exchange χ}
    (hexchange : client.provider.context.Agrees exchange)
    (hstate : exchange.state = call.operation.requiredState) (shared : ω) :
    (client.body call).Behaves ({ exchange with state := call.operation.workingState }, shared)
      fun _ reached => client.provider.context.Agrees reached.1 := by
  cases call with
  | begin initial => exact .map (answerFirst_behaves hprovider initial exchange shared)
  | proceed token =>
      obtain ⟨context, hcontext⟩ := hexchange.negotiating hstate
      exact .map (answerToken_behaves hprovider token hcontext shared)
  | close message =>
      obtain ⟨context, hcontext, hestablished⟩ := hexchange.established hstate
      exact .map (answerClosing_behaves hprovider message hcontext hestablished shared)

/-- A call that is allowed fails regularly only. Either way the exchange it leaves has the
context that its state speaks of. -/
theorem call_regular {call : Call} {exchange : Exchange χ}
    (hexchange : client.provider.context.Agrees exchange)
    (hstate : exchange.state = call.operation.requiredState) (shared : ω) :
    (∀ error, ((client.call call).run (exchange, shared)).result = .error error →
        error.Regular) ∧
      client.provider.context.Agrees ((client.call call).run (exchange, shared)).state.1 := by
  have hbody := body_behaves hprovider hexchange hstate shared
  rw [call_eq_perform]
  rcases hrun : (client.body call).run
      ({ exchange with state := call.operation.workingState }, shared) with
    ⟨error | value, ⟨reached, shared'⟩, notes⟩
  · have hregular := hbody.regular (congrArg Outcome.result hrun)
    -- After a failure the exchange is in neither of the two states.
    rw [run_perform_error hstate hrun]
    refine ⟨?_, SecurityContext.agrees_of_state .failed rfl⟩
    intro _ herror
    cases herror
    exact hregular
  · have hfinished := hbody.finished (congrArg Outcome.result hrun)
    rw [hrun] at hfinished
    rw [run_perform_ok hstate hrun]
    refine ⟨?_, hfinished⟩
    intro _ herror
    cases herror

/-- The context agrees with the exchange wherever a run leads. -/
theorem reached_agrees (calls : List Call) {state : Exchange χ × ω}
    (hexchange : client.provider.context.Agrees state.1) :
    client.provider.context.Agrees (client.reached calls state).1 := by
  induction calls generalizing state with
  | nil => exact hexchange
  | cons call calls ih =>
      apply ih
      by_cases hstate : state.1.state = call.operation.requiredState
      · exact (call_regular hprovider hexchange hstate state.2).2
      · have hrefused : (client.call call).run state =
            ⟨.error (call.operation.misuse state.1.state), state, []⟩ :=
          client.outcome_of_refused hstate
        rw [hrefused]
        exact hexchange

end Body

/-! ## What reaches the provider -/

variable {client : Client ω ν κ χ} {backend : Backend} {challenge : Challenge}
  {events : List (ProviderEvent κ)}

/-- Whether a backend takes all that has reached a provider. -/
def Taken (backend : Backend) (events : List (ProviderEvent κ)) : Prop :=
  ∀ event ∈ events, ∀ call, event.call? = some call → backend.Takes call

theorem taken_nil : Taken backend ([] : List (ProviderEvent κ)) := by
  intro event hevent
  exact absurd hevent List.not_mem_nil

theorem taken_cons {event : ProviderEvent κ}
    (hevent : ∀ call, event.call? = some call → backend.Takes call)
    (hevents : Taken backend events) : Taken backend (event :: events) :=
  List.forall_mem_cons.mpr ⟨hevent, hevents⟩

theorem taken_append {later : List (ProviderEvent κ)} (hevents : Taken backend events)
    (hlater : Taken backend later) : Taken backend (events ++ later) :=
  List.forall_mem_append.mpr ⟨hevents, hlater⟩

theorem taken_step (input : Option Bytes) (answer : Except AuthError StepOutput) :
    Taken backend ([.step input answer] : List (ProviderEvent κ)) := by
  apply taken_cons _ taken_nil
  intro call hcall
  cases hcall
  trivial

theorem Closing.taken {message : Bytes} {answer : Except AuthError Bytes}
    (hclosing : Closing message events answer) : Taken backend events := by
  intro event hevent call hcall
  cases hclosing <;> simp only [List.mem_cons, List.not_mem_nil, or_false] at hevent
  case unestablished =>
    subst hevent
    cases hcall
  case unverified =>
    rcases hevent with rfl | rfl <;> cases hcall
    trivial
  case verified =>
    rcases hevent with rfl | rfl | rfl <;> cases hcall <;> trivial

section Taken

variable (hembeds : client.embeds = true ↔ backend = .negotiate)
include hembeds

/-- What a credential is selected by, and what it can be used for. -/
theorem Selection.taken {answer : Except AuthError (InitiatorCredential κ)}
    (hselection : client.Selection challenge events answer) :
    Taken backend events ∧ ∀ credential, answer = .ok credential → ∀ target requirements,
      backend.Takes (.initiate target credential requirements) := by
  cases hselection with
  | own hown =>
      have hbackend := hembeds.mp hown
      refine ⟨taken_nil, ?_⟩
      intro credential hcredential target requirements
      cases hcredential
      unfold ownCredential
      cases client.explicitIdentity? challenge with
      | none => trivial
      | some identity => exact hbackend
  | resolved hresolves answer =>
      have hbackend : backend = .gssapi := by
        rw [Backend.eq_gssapi_iff]
        intro hnegotiate
        rw [hembeds.mpr hnegotiate] at hresolves
        cases hresolves
      constructor
      · apply taken_cons _ taken_nil
        intro call hcall
        cases hcall
        exact hbackend
      · intro credential hcredential target requirements
        cases answer with
        | error error => cases hcredential
        | ok resolved =>
            cases hcredential
            exact hbackend

theorem Opening.taken {answer : Except AuthError StepOutput}
    (hopening : client.Opening challenge events answer) : Taken backend events := by
  have hinitiate : ∀ {earlier : List (ProviderEvent κ)} {credential},
      client.Selection challenge earlier (.ok credential) → ∀ answer later, Taken backend later →
        Taken backend (earlier ++ .initiate challenge.servicePrincipal credential
          Requirements.handshake answer :: later) := by
    intro earlier credential hselection answer later hlater
    obtain ⟨hearlier, htakes⟩ := hselection.taken hembeds
    apply taken_append hearlier
    apply taken_cons _ hlater
    intro call hcall
    cases hcall
    exact htakes credential rfl _ _
  cases hopening with
  | unselected hselection => exact (hselection.taken hembeds).1
  | uninitiated hselection error => exact hinitiate hselection _ [] taken_nil
  | stepped hselection => exact hinitiate hselection _ _ (taken_step _ _)

theorem Negotiation.taken {answered : List Exchanged} {complete : Bool}
    (hnegotiation : client.Negotiation challenge answered events complete) :
    Taken backend events := by
  induction hnegotiation with
  | opened _ hopening => exact hopening.taken hembeds
  | stepped _ token output ih => exact taken_append ih (taken_step _ _)

/-- Throughout a dialogue the provider is asked for nothing that its backend does not take. -/
theorem Dialogue.taken {answered : List Exchanged} {exchange : Exchange χ}
    (hdialogue : client.Dialogue answered events exchange) : Taken backend events := by
  cases hdialogue with
  | fresh | unbegun | fellBack => exact taken_nil
  | unopened _ hopening => exact hopening.taken hembeds
  | underway hnegotiation => exact hnegotiation.taken hembeds
  | unstepped hnegotiation => exact taken_append (hnegotiation.taken hembeds) (taken_step _ _)
  | unclosed hnegotiation hclosing | closed hnegotiation hclosing =>
      exact taken_append (hnegotiation.taken hembeds) hclosing.taken

end Taken

/-! ## Runs -/

/-- How a client uses a provider of a backend in a run from a fresh exchange. -/
structure UsesWell (backend : Backend) (client : Client ω ν κ χ) (calls : List Call)
    (shared : ω) : Prop where
  run : (client.watched.history calls (fresh shared)).map (fun visit => unwatched visit.outcome) =
    client.run calls ({}, shared)
  supported : ∀ visit ∈ client.watched.history calls (fresh shared), ∀ error,
    visit.outcome.result = .error error → error.kind ≠ .unsupportedMethod
  ordered : ∀ visit ∈ client.watched.history calls (fresh shared), ∀ error,
    visit.outcome.result = .error error → error.kind = .protocolMisuse →
      visit.before.1.state ≠ visit.call.operation.requiredState
  established : (client.watched.reached calls (fresh shared)).1.state = .established →
    ∃ context, (client.watched.reached calls (fresh shared)).1.context = some context ∧
      client.provider.context.state context = .established
  taken : Taken backend (written (client.watched.reached calls (fresh shared)))

/-- A client over a provider that does its part uses it well. -/
theorem usesWell (hprovider : client.provider.Regular backend) (calls : List Call) (shared : ω) :
    UsesWell backend client calls shared := by
  -- All lemmas about a call are about any client, so they hold of the watched one.
  have hwatched : client.watched.provider.Regular backend := hprovider.watched
  have hfresh : client.watched.provider.context.Agrees
      (fresh shared : Exchange χ × Written κ ω).1 := SecurityContext.agrees_of_state .start rfl
  have hregular : ∀ visit ∈ client.watched.history calls (fresh shared), ∀ error,
      visit.outcome.result = .error error → error.Regular ∨
        error.kind = .protocolMisuse ∧
          visit.before.1.state ≠ visit.call.operation.requiredState := by
    intro visit hvisit error hresult
    obtain ⟨earlier, call, later, rfl, rfl⟩ := client.watched.exists_of_mem_history hvisit
    have hagrees := reached_agrees hwatched earlier hfresh
    by_cases hstate : (client.watched.reached earlier (fresh shared)).1.state =
        call.operation.requiredState
    · exact .inl ((call_regular hwatched hagrees hstate _).1 error hresult)
    · rw [client.watched.outcome_of_refused hstate] at hresult
      cases hresult
      exact .inr ⟨rfl, hstate⟩
  constructor
  case run => exact client.map_unwatched_history calls {} [] shared
  case supported =>
    intro visit hvisit error hresult
    rcases hregular visit hvisit error hresult with hregular | ⟨hkind, -⟩
    · exact hregular.supported
    · rw [hkind]
      decide
  case ordered =>
    intro visit hvisit error hresult hkind
    rcases hregular visit hvisit error hresult with hregular | ⟨-, hstate⟩
    · exact absurd hkind hregular.ordered
    · exact hstate
  case established => exact (reached_agrees hwatched calls hfresh).established
  case taken => exact (client.dialogue calls shared).taken hprovider.embeds

end Client

end KerberosLogin
