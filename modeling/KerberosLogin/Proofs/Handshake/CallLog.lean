import KerberosLogin.Proofs.Handshake.Disclosure

/-! # What is logged of a call

What is logged of an accepted call begins with what is known before the provider is asked: the
challenge and the identity, or the fallback, or why neither can be had. Then each answer of
the provider is met with its echo. The state that the call leads to follows from the same.
-/

namespace KerberosLogin

open KerberosLogin.Action (Reports)
open Disclosure (Leads)

variable {ω ν κ χ α β : Type}

namespace Client

/-! ## Before the provider is asked -/

/-- What is noted of an identity that is handed on as it is. -/
def identityNotes (client : Client ω ν κ χ) (challenge : Challenge) :
    List (HandshakeNote LogRecord) :=
  if client.embeds then
    match client.explicitIdentity? challenge with
    | some identity => [.explicitIdentity identity.user identity.realm]
    | none => [.logonSession]
  else []

/-- What is noted of a challenge. -/
def challengeNotes (client : Client ω ν κ χ) (challenge : Challenge) :
    List (HandshakeNote LogRecord) :=
  .challengeReceived challenge client.provider.name :: client.identityNotes challenge

/-- What is noted of a call before the provider is asked, and the state that the call leads to
if the provider is not asked at all. -/
def foreword (client : Client ω ν κ χ) :
    Call → List (HandshakeNote LogRecord) × Option HandshakeState
  | .begin initial =>
    match Challenge.decodeOptional initial with
    | .error fault => ([.failed fault.toError .awaitingChallenge], some .failed)
    | .ok (some challenge) => (client.challengeNotes challenge, none)
    | .ok none =>
      match client.credentials.password with
      | none => ([.failed noPassword .awaitingChallenge], some .failed)
      | some password =>
        ([.passwordFallback, .clearPassword (ClearPassword.payload password).length],
          some .closed)
  | _ => ([], none)

theorem foreword_ne_start (client : Client ω ν κ χ) (call : Call) :
    (client.foreword call).2 ≠ some .start := by
  unfold foreword
  split
  · split
    · simp
    · simp
    · split <;> simp
  · simp

theorem foreword_of_ne_begin (client : Client ω ν κ χ) {call : Call}
    (hcall : call.operation ≠ .begin) : client.foreword call = ([], none) := by
  cases call with
  | begin initial => exact absurd rfl hcall
  | proceed token | close message => rfl

/-- What is logged of a call before the provider is asked. -/
def preamble (client : Client ω ν κ χ) (call : Call) : List LogRecord :=
  (client.foreword call).1.map HandshakeNote.record

/-- Whether a call leads to a state, given what is disclosed. -/
def LeadsTo (client : Client ω ν κ χ) (call : Call) (events : List Disclosure)
    (state : HandshakeState) : Prop :=
  match (client.foreword call).2 with
  | none => Leads events (some state)
  | some state' => events = [] ∧ state = state'

/-! ## The parts of a call -/

/-- The state that a result leads to, where an error is the end of the exchange. -/
def afterwards (granted : α → Option HandshakeState) :
    Except AuthError α → Option HandshakeState
  | .error _ => some .failed
  | .ok value => granted value

variable {client : Client ω ν κ χ} {see : ν → Option LogRecord}

theorem initiatorCredential_reports (challenge : Challenge) (state : List Disclosure × ω) :
    Reports Prod.fst see .begin ((client.identityNotes challenge).map HandshakeNote.record)
      (fun _ => []) ((client.disclosing see).initiatorCredential challenge) state
      fun events answer _ => Leads events (afterwards (fun _ => none) answer) := by
  have hcapabilities : (client.disclosing see).provider.capabilities.contains
      Capabilities.embeddedIdentity = client.embeds := rfl
  have hidentity : (client.disclosing see).explicitIdentity? challenge =
      client.explicitIdentity? challenge := rfl
  unfold initiatorCredential identityNotes
  rw [hcapabilities, hidentity]
  cases client.embeds with
  | true =>
      rw [if_pos rfl, if_pos rfl]
      cases client.explicitIdentity? challenge with
      | none => exact .note_bind rfl (.pure rfl .nil)
      | some identity => exact .note_bind rfl (.pure rfl .nil)
  | false =>
      rw [if_neg Bool.false_ne_true, if_neg Bool.false_ne_true]
      apply Reports.bind (.asked Decision.ofResolved_faithful
        (client.provider.resolveCredentials (client.request challenge) client.environment) state)
      · intro events error _ hleads
        exact hleads
      · intro events resolved _ hleads
        exact .note_bind rfl (.pure rfl (hleads.append .nil))

/-- What is logged of a step once the exchange takes its output in. -/
def steppedRecord (output : StepOutput) : LogRecord :=
  HandshakeNote.record (.stepped (output.token.elim 0 List.length) output.complete)

theorem openContext_reports (challenge : Challenge) (state : List Disclosure × ω) :
    Reports Prod.fst see .begin ((client.challengeNotes challenge).map HandshakeNote.record)
      (fun opened => [steppedRecord opened.1])
      ((client.disclosing see).openContext challenge) state fun events answer _ =>
        Leads events (afterwards (fun opened => some (.ofComplete opened.1.complete)) answer) := by
  apply Reports.note_bind rfl
  apply (initiatorCredential_reports challenge state).bind
  · intro events error _ hleads
    exact hleads
  intro events credential selected hselected
  apply Reports.bind (.asked Decision.ofInitiated_faithful
    (client.provider.initiate challenge.servicePrincipal credential Requirements.handshake)
    selected)
  · intro later error _ hleads
    exact hselected.append hleads
  intro later context initiated hinitiated
  apply Reports.imp (.askedWithOwn Decision.ofStepped_faithful
    (client.provider.context.step none) context initiated)
  intro last answer _ hstepped
  cases answer <;> exact hselected.append (hinitiated.append hstepped)

theorem update_bind_reports {operation : Operation} {before : List LogRecord}
    {rest : α → List LogRecord} {change : Exchange χ → Exchange χ} {exchange : Exchange χ}
    {next : Unit → Act (List Disclosure × ω) ν χ α} {state : List Disclosure × ω}
    {ending : List Disclosure → Except AuthError α → Exchange χ × List Disclosure × ω → Prop}
    (hnext : Reports (fun state => state.2.1) see operation before rest (next ())
      (change exchange, state) ending) :
    Reports (fun state => state.2.1) see operation before rest (update change >>= next)
      (exchange, state) ending :=
  hnext

theorem record_reports (operation : Operation) (output : StepOutput) (exchange : Exchange χ)
    (state : List Disclosure × ω) :
    Reports (fun state => state.2.1) see operation [steppedRecord output] (fun _ => [])
      (record output : Act _ ν χ _) (exchange, state) fun events answer reached =>
        events = [] ∧ (∃ outcome, answer = .ok outcome) ∧
          reached = ({ exchange with state := .ofComplete output.complete }, state) := by
  rcases output with ⟨token, complete⟩
  apply update_bind_reports
  apply Reports.note_bind rfl
  cases token with
  | none => exact .pure rfl ⟨rfl, ⟨_, rfl⟩, rfl⟩
  | some token => exact .traced_bind rfl (.pure rfl ⟨rfl, ⟨_, rfl⟩, rfl⟩)

theorem askComplete_reports {exchange : Exchange χ} {context : χ}
    (hcontext : exchange.context = some context) (state : List Disclosure × ω) :
    Reports (fun state => state.2.1) see .close []
      (fun complete => if complete then [] else [failureRecord .close notEstablished])
      (onContext (client.disclosing see).provider.context.askComplete) (exchange, state)
      fun events answer reached =>
        (∃ complete, answer = .ok complete ∧ Leads events (Decision.asked complete).leadsTo) ∧
          ∃ last, reached.1 = { exchange with context := some last } := by
  unfold Reports onContext
  simp only [hcontext]
  refine ⟨[_], rfl, ?_, ⟨_, rfl, .single _⟩, _, rfl⟩
  dsimp only [SecurityContext.askComplete, disclosing, SecurityProvider.disclosing,
    SecurityContext.disclosing]
  cases (client.provider.context.isComplete (context, state.2)).1 <;> rfl

/-- Whether there is a context where a call is allowed that needs one. -/
def Equipped (exchange : Exchange χ) : Prop :=
  ∀ operation : Operation, operation ≠ .begin → exchange.state = operation.requiredState →
    ∃ context, exchange.context = some context

/-- How the body of a call ends, before the call is settled. -/
def Concluded (client : Client ω ν κ χ) (call : Call) (events : List Disclosure) :
    Except AuthError α → Exchange χ → Prop
  | .error _, exchange =>
    client.LeadsTo call events .failed ∧ exchange.state = call.operation.workingState
  | .ok _, exchange => client.LeadsTo call events exchange.state ∧ Equipped exchange

theorem Concluded.map {convert : α → β} {call : Call} {events : List Disclosure}
    {answer : Except AuthError α} {exchange : Exchange χ}
    (hconcluded : client.Concluded call events answer exchange) :
    client.Concluded call events (answer.map convert) exchange := by
  cases answer <;> exact hconcluded

theorem equipped_of_context {exchange : Exchange χ} {context : χ}
    (hcontext : exchange.context = some context) : Equipped exchange :=
  fun _ _ _ => ⟨context, hcontext⟩

theorem equipped_of_idle {exchange : Exchange χ}
    (hstate : exchange.state ∈ [HandshakeState.start, .closed, .failed]) :
    Equipped exchange := by
  intro operation hbegin hrequired
  rw [hrequired] at hstate
  cases operation <;> simp [Operation.requiredState] at hbegin hstate

theorem fallBack_reports {exchange : Exchange χ} {initial : Option Bytes}
    (hpacket : Challenge.decodeOptional initial = .ok none) (state : List Disclosure × ω) :
    Reports (fun state => state.2.1) see .begin (client.preamble (.begin initial)) (fun _ => [])
      (client.disclosing see).fallBack ({ exchange with state := .awaitingChallenge }, state)
      fun events answer reached => client.Concluded (.begin initial) events answer reached.1 := by
  have hcredentials : (client.disclosing see).credentials = client.credentials := rfl
  unfold fallBack
  rw [hcredentials]
  cases hpassword : client.credentials.password with
  | none =>
      have hforeword : client.foreword (.begin initial) =
          ([.failed noPassword .awaitingChallenge], some .failed) := by
        simp [foreword, hpacket, hpassword]
      apply Reports.fail
      · simp [preamble, hforeword, failureRecord, noPassword, Operation.workingState]
      · simp [Concluded, LeadsTo, hforeword, Call.operation, Operation.workingState]
  | some password =>
      have hforeword : client.foreword (.begin initial) =
          ([.passwordFallback, .clearPassword (ClearPassword.payload password).length],
            some .closed) := by
        simp [foreword, hpacket, hpassword]
      simp only [preamble, hforeword, List.map_cons, List.map_nil]
      apply Reports.note_bind rfl
      rw [ClearPassword.respond, bind_assoc]
      apply Reports.note_bind rfl
      rw [pure_bind]
      apply update_bind_reports
      refine .pure rfl ⟨?_, equipped_of_idle (by simp)⟩
      simp [LeadsTo, hforeword]

theorem answerFirst_reports (exchange : Exchange χ) (initial : Option Bytes)
    (state : List Disclosure × ω) :
    Reports (fun state => state.2.1) see .begin (client.preamble (.begin initial)) (fun _ => [])
      ((client.disclosing see).answerFirst initial)
      ({ exchange with state := .awaitingChallenge }, state)
      fun events answer reached => client.Concluded (.begin initial) events answer reached.1 := by
  unfold answerFirst
  rcases hpacket : Challenge.decodeOptional initial with fault | _ | challenge
  · have hforeword : client.foreword (.begin initial) =
        ([.failed fault.toError .awaitingChallenge], some .failed) := by
      simp [foreword, hpacket]
    rw [Except.mapError, Action.ofExcept_error_bind]
    apply Reports.fail
    · simp [preamble, hforeword, failureRecord, Operation.workingState]
    · simp [Concluded, LeadsTo, hforeword, Call.operation, Operation.workingState]
  · rw [Except.mapError, Action.ofExcept_ok_bind]
    exact fallBack_reports hpacket state
  · have hforeword : client.foreword (.begin initial) =
        (client.challengeNotes challenge, none) := by
      simp [foreword, hpacket]
    have hleadsTo : ∀ events state, Leads events (some state) →
        client.LeadsTo (.begin initial) events state := by
      intro events state hleads
      simpa [LeadsTo, hforeword] using hleads
    rw [Except.mapError, Action.ofExcept_ok_bind, preamble, hforeword]
    apply (openContext_reports challenge state).onSecond.bind
    · rintro events error ⟨_, _⟩ ⟨hleads, rfl⟩
      exact ⟨hleadsTo _ _ hleads, rfl⟩
    · rintro events ⟨output, context⟩ ⟨_, later⟩ ⟨hleads, rfl⟩
      apply update_bind_reports
      apply (record_reports .begin output _ later).bind
      · rintro _ error _ ⟨_, ⟨_, hresult⟩, _⟩
        cases hresult
      · rintro _ outcome _ ⟨rfl, _, rfl⟩
        refine .pure rfl ⟨hleadsTo _ _ ?_, equipped_of_context rfl⟩
        simp only [List.append_nil]
        exact hleads

theorem answerToken_reports {exchange : Exchange χ} {context : χ}
    (hcontext : exchange.context = some context) (token : Option Bytes)
    (state : List Disclosure × ω) :
    Reports (fun state => state.2.1) see .proceed [] (fun _ => [])
      ((client.disclosing see).answerToken token)
      ({ exchange with state := .negotiating }, state)
      fun events answer reached => client.Concluded (.proceed token) events answer reached.1 := by
  apply Reports.bind (.askedOnContext Decision.ofStepped_faithful
    (client.provider.context.step token) (by exact hcontext) state)
  · rintro events error ⟨_, _⟩ ⟨hleads, last, rfl⟩
    exact ⟨hleads, rfl⟩
  · rintro events output ⟨_, later⟩ ⟨hleads, last, rfl⟩
    apply Reports.imp (record_reports .proceed output _ later)
    rintro _ _ _ ⟨rfl, ⟨outcome, rfl⟩, rfl⟩
    refine ⟨?_, equipped_of_context rfl⟩
    rw [List.append_nil]
    exact hleads

theorem answerClosing_reports {exchange : Exchange χ} {context : χ}
    (hcontext : exchange.context = some context) (message : Bytes)
    (state : List Disclosure × ω) :
    Reports (fun state => state.2.1) see .close [] (fun _ => [])
      ((client.disclosing see).answerClosing message)
      ({ exchange with state := .established }, state)
      fun events answer reached => client.Concluded (.close message) events answer reached.1 := by
  apply (askComplete_reports (by exact hcontext) state).bind
  · rintro _ error _ ⟨⟨_, hresult, _⟩, _⟩
    cases hresult
  rintro asking complete ⟨_, asked⟩ ⟨⟨_, hresult, hasked⟩, held, rfl⟩
  cases hresult
  cases complete with
  | false =>
      apply Reports.fail rfl
      refine ⟨?_, rfl⟩
      rw [List.append_nil]
      exact hasked
  | true =>
      rw [if_pos rfl]
      apply Reports.bind (.askedOnContext Decision.ofUnwrapped_faithful
        (client.provider.context.unwrap message) rfl asked)
      · rintro events error ⟨_, _⟩ ⟨hleads, last, rfl⟩
        exact ⟨hasked.append hleads, rfl⟩
      rintro verifying plain ⟨_, unwrapped⟩ ⟨hunwrapped, last, rfl⟩
      apply Reports.note_bind rfl
      apply Reports.traced_bind rfl
      apply Reports.bind (.askedOnContext Decision.ofWrapped_faithful
        (client.provider.context.wrap closingMessage false) rfl unwrapped)
      · rintro events error ⟨_, _⟩ ⟨hleads, last, rfl⟩
        exact ⟨hasked.append (hunwrapped.append hleads), rfl⟩
      · rintro protecting wrapped ⟨_, _⟩ ⟨hleads, last, rfl⟩
        apply Reports.note_bind rfl
        apply update_bind_reports
        refine .pure rfl ⟨?_, equipped_of_idle (by simp)⟩
        rw [List.append_nil]
        exact hasked.append (hunwrapped.append hleads)

theorem body_reports (client : Client ω ν κ χ) (see : ν → Option LogRecord) {call : Call}
    {exchange : Exchange χ}
    (hcontext : call.operation ≠ .begin → ∃ context, exchange.context = some context)
    (state : List Disclosure × ω) :
    Reports (fun state => state.2.1) see call.operation (client.preamble call) (fun _ => [])
      ((client.disclosing see).body call)
      ({ exchange with state := call.operation.workingState }, state)
      fun events answer reached => client.Concluded call events answer reached.1 := by
  cases call with
  | begin initial =>
      apply Reports.map
      exact (answerFirst_reports exchange initial state).imp fun _ _ _ => Concluded.map
  | proceed token =>
      obtain ⟨context, hcontext⟩ := hcontext (by simp [Call.operation])
      apply Reports.map
      exact (answerToken_reports hcontext token state).imp fun _ _ _ => Concluded.map
  | close message =>
      obtain ⟨context, hcontext⟩ := hcontext (by simp [Call.operation])
      apply Reports.map
      exact (answerClosing_reports hcontext message state).imp fun _ _ _ => Concluded.map

/-! ## One call -/

/-- What an accepted call discloses, and that its log and where it leads to are told by
that. -/
structure Told (client : Client ω ν κ χ) (see : ν → Option LogRecord) (call : Call)
    (before : List Disclosure)
    (outcome : Outcome (Exchange χ × List Disclosure × ω) (HandshakeNote ν) Answer)
    (events : List Disclosure) : Prop where
  disclosed : outcome.state.2.1 = before ++ events
  logged : outcome.notes.filterMap (HandshakeNote.untraced see) =
    client.preamble call ++ events.flatMap (Disclosure.echo call.operation)
  leadsTo : client.LeadsTo call events outcome.state.1.state
  equipped : Equipped outcome.state.1

theorem call_told (client : Client ω ν κ χ) (see : ν → Option LogRecord) {call : Call}
    {state : Exchange χ × List Disclosure × ω}
    (hstate : state.1.state = call.operation.requiredState) (hequipped : Equipped state.1) :
    ∃ events, client.Told see call state.2.1 (((client.disclosing see).call call).run state)
      events := by
  rcases state with ⟨exchange, shared⟩
  obtain ⟨events, htrace, hrecords, hending⟩ :=
    client.body_reports see (hequipped call.operation · hstate) shared
  rw [call_eq_perform]
  rcases hbody : ((client.disclosing see).body call).run
    ({ exchange with state := call.operation.workingState }, shared) with
    ⟨error | answer, ⟨reached, last⟩, notes⟩
  · rw [hbody] at htrace hrecords hending
    obtain ⟨hleads, hworking⟩ := hending
    have hworking : reached.state = call.operation.workingState := hworking
    rw [run_perform_error hstate hbody, hworking]
    refine ⟨events, htrace, ?_, hleads, equipped_of_idle (by simp)⟩
    rw [← hrecords, List.filterMap_append]
    rfl
  · rw [hbody] at htrace hrecords hending
    obtain ⟨hleads, hequipped⟩ := hending
    rw [run_perform_ok hstate hbody]
    refine ⟨events, htrace, ?_, hleads, hequipped⟩
    rw [← hrecords]
    exact (List.append_nil _).symm

/-! ## Where a call leads -/

theorem LeadsTo.ne_start {call : Call} {events : List Disclosure} {reached : HandshakeState}
    (hleads : client.LeadsTo call events reached) : reached ≠ .start := by
  have hend := client.foreword_ne_start call
  unfold LeadsTo at hleads
  generalize (client.foreword call).2 = end? at hend hleads
  rintro rfl
  cases end? with
  | none => exact hleads.ne_start rfl
  | some state =>
      obtain ⟨-, rfl⟩ := hleads
      exact hend rfl

end Client

end KerberosLogin
