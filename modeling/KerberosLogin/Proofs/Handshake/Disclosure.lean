import KerberosLogin.Proofs.Handshake.Effect
import KerberosLogin.Proofs.Handshake.Secrecy

/-! # What a provider discloses

Of each answer of a provider its decision is disclosed, and of a token or a message in it the
size. What is logged of a call, but for the most detailed level, can be told from that: first
comes what is logged before the provider is asked, then what each answer is met with. Where
the call leads to can be told as well.
-/

namespace KerberosLogin

variable {σ ω ν κ χ α β : Type}

/-- The record that an observer makes, unless it is of the most detailed level. -/
def LogRecord.untraced (see : ν → Option LogRecord) (entry : ν) : Option LogRecord :=
  (see entry).filter fun record => record.level ≠ .trace

/-- The record of a note, unless it is of the most detailed level. -/
def HandshakeNote.untraced (see : ν → Option LogRecord) : HandshakeNote ν → Option LogRecord :=
  LogRecord.untraced (HandshakeNote.logged see)

/-- How a provider decides. -/
inductive Decision where
  | resolved (answer : Except AuthError (Principal × Bool))
  | initiated (answer : Except AuthError Unit)
  /-- A step was made, with a token of a size. An absent token has size zero. -/
  | stepped (answer : Except AuthError (Nat × Bool))
  | asked (complete : Bool)
  | unwrapped (answer : Except AuthError Nat)
  | wrapped (answer : Except AuthError Nat)
  deriving DecidableEq

namespace Decision

/-- The decision to resolve credentials. -/
def ofResolved (answer : Except AuthError (ResolvedCredentials κ)) : Decision :=
  .resolved (answer.map fun resolved => (resolved.principal, resolved.reacquired))

/-- The decision to initiate a context. -/
def ofInitiated (answer : Except AuthError χ) : Decision :=
  .initiated (answer.map fun _ => ())

/-- The decision to make a step. -/
def ofStepped (answer : Except AuthError StepOutput) : Decision :=
  .stepped (answer.map fun output => (output.token.elim 0 List.length, output.complete))

/-- The decision to verify a message. -/
def ofUnwrapped (answer : Except AuthError Bytes) : Decision :=
  .unwrapped (answer.map List.length)

/-- The decision to protect a message. -/
def ofWrapped (answer : Except AuthError Bytes) : Decision :=
  .wrapped (answer.map List.length)

end Decision

/-- A decision, and what the provider itself has logged on the way to it. -/
structure Disclosure where
  decision : Decision
  records : List LogRecord
  deriving DecidableEq

/-! ## Disclosing -/

/-- Runs an action of a provider and writes down what it discloses. -/
def Action.disclosing (see : ν → Option LogRecord) (decision : Except AuthError α → Decision)
    (action : Action ω ν α) : Action (List Disclosure × ω) ν α where
  run := fun (trace, shared) =>
    let outcome := action.run shared
    ⟨outcome.result,
      (trace ++ [⟨decision outcome.result, outcome.notes.filterMap (LogRecord.untraced see)⟩],
        outcome.state), outcome.notes⟩

/-- Runs an action of a context and writes down what it discloses. -/
def Action.disclosingOn (see : ν → Option LogRecord) (decision : Except AuthError α → Decision)
    (action : Action (χ × ω) ν α) : Action (χ × List Disclosure × ω) ν α where
  run := fun (context, trace, shared) =>
    let outcome := action.run (context, shared)
    ⟨outcome.result,
      (outcome.state.1,
        trace ++ [⟨decision outcome.result, outcome.notes.filterMap (LogRecord.untraced see)⟩],
        outcome.state.2), outcome.notes⟩

/-- The same operations, with what they disclose written down. -/
def SecurityContext.disclosing (see : ν → Option LogRecord) (operations : SecurityContext ω ν χ) :
    SecurityContext (List Disclosure × ω) ν χ where
  state := operations.state
  isComplete := fun (context, trace, shared) =>
    let (complete, context', shared') := operations.isComplete (context, shared)
    (complete, context', trace ++ [⟨.asked complete, []⟩], shared')
  step input := (operations.step input).disclosingOn see .ofStepped
  wrap payload encrypt := (operations.wrap payload encrypt).disclosingOn see .ofWrapped
  unwrap message := (operations.unwrap message).disclosingOn see .ofUnwrapped

/-- The same provider, with what it discloses written down. -/
def SecurityProvider.disclosing (see : ν → Option LogRecord)
    (provider : SecurityProvider ω ν κ χ) : SecurityProvider (List Disclosure × ω) ν κ χ where
  name := provider.name
  capabilities := provider.capabilities
  resolveCredentials request env :=
    (provider.resolveCredentials request env).disclosing see .ofResolved
  initiate target credential requirements :=
    (provider.initiate target credential requirements).disclosing see .ofInitiated
  context := provider.context.disclosing see

namespace Action

theorem disclosing_related (see : ν → Option LogRecord) {V : α → α → Prop}
    (hvalue : ∀ value, V value value) (decision : Except AuthError α → Decision)
    (action : Action ω ν α) :
    Related (fun disclosing shared => disclosing.2 = shared) some some V
      (action.disclosing see decision) action := by
  rintro ⟨trace, shared⟩ _ rfl
  exact ⟨Outcome.resultsRelated_refl hvalue _, rfl, rfl⟩

theorem disclosingOn_related (see : ν → Option LogRecord)
    (decision : Except AuthError α → Decision) (action : Action (χ × ω) ν α) :
    Related (Outcome.PairRelated Eq fun disclosing shared => disclosing.2 = shared) some some Eq
      (action.disclosingOn see decision) action := by
  rintro ⟨context, trace, shared⟩ ⟨_, _⟩ ⟨rfl, rfl⟩
  exact ⟨Outcome.resultsRelated_refl (fun _ => rfl) _, ⟨rfl, rfl⟩, rfl⟩

end Action

namespace Client

/-- The same client over a provider whose disclosures are written down. -/
def disclosing (see : ν → Option LogRecord) (client : Client ω ν κ χ) :
    Client (List Disclosure × ω) ν κ χ :=
  ⟨client.provider.disclosing see, client.credentials, client.environment⟩

/-- What is disclosed in a run of calls on a fresh exchange. -/
def disclosures (see : ν → Option LogRecord) (client : Client ω ν κ χ) (calls : List Call)
    (shared : ω) : List Disclosure :=
  ((client.disclosing see).reached calls ({}, [], shared)).2.1

theorem disclosing_related (see : ν → Option LogRecord) (client : Client ω ν κ χ) :
    Related (fun disclosing shared => disclosing.2 = shared) Eq Eq some some
      (client.disclosing see) client where
  credentials := rfl
  environment := rfl
  provider := {
    name := rfl
    capabilities := rfl
    resolveCredentials := fun _ _ =>
      Action.disclosing_related see (fun _ => ⟨rfl, rfl, rfl⟩) .ofResolved _
    initiate := by
      intro target requirements credential credential' hcredential
      obtain rfl := InitiatorCredential.eq_of_related hcredential
      exact Action.disclosing_related see (fun _ => rfl) .ofInitiated _
    isComplete := by
      rintro ⟨context, trace, shared⟩ ⟨_, _⟩ ⟨rfl, rfl⟩
      exact ⟨rfl, rfl, rfl⟩
    step := fun _ => Action.disclosingOn_related see .ofStepped _
    wrap := fun _ _ => Action.disclosingOn_related see .ofWrapped _
    unwrap := fun _ => Action.disclosingOn_related see .ofUnwrapped _ }

/-- Writing down what is disclosed changes no note. -/
theorem map_notes_disclosing (see : ν → Option LogRecord) (client : Client ω ν κ χ)
    (calls : List Call) (shared : ω) :
    ((client.disclosing see).run calls ({}, [], shared)).map Outcome.notes =
      (client.run calls ({}, shared)).map Outcome.notes := by
  have hstart : Outcome.PairRelated (Exchange.Related Eq)
      (fun disclosing shared => disclosing.2 = shared) (({} : Exchange χ), ([] : List Disclosure),
        shared) (({} : Exchange χ), shared) := ⟨⟨rfl, rfl, .none⟩, rfl⟩
  have hrun := run_related (client.disclosing_related see) calls hstart
  have hall : HandshakeNote.seen (some : ν → Option ν) = some := funext HandshakeNote.seen_some
  rw [hall] at hrun
  generalize (client.disclosing see).run calls ({}, [], shared) = outcomes at hrun ⊢
  generalize client.run calls ({}, shared) = outcomes' at hrun ⊢
  induction hrun with
  | nil => rfl
  | cons houtcome _ ih =>
      have hnotes := houtcome.notes
      rw [List.filterMap_some, List.filterMap_some] at hnotes
      rw [List.map_cons, List.map_cons, hnotes, ih]

end Client

/-! ## Decisions -/

/-- The error of a context that is not established when the exchange is closed. -/
def Client.notEstablished : AuthError :=
  ⟨.protocolMisuse, "security context is not established"⟩

namespace Decision

/-- The error that a decision ends the call with. -/
def error? : Decision → Option AuthError
  | resolved (.error error) => some error
  | initiated (.error error) => some error
  | stepped (.error error) => some error
  | asked false => some Client.notEstablished
  | unwrapped (.error error) => some error
  | wrapped (.error error) => some error
  | _ => none

/-- What is noted of a decision that is no error. -/
def noted : Decision → List (HandshakeNote LogRecord)
  | resolved (.ok (principal, reacquired)) => [.credentialsResolved principal reacquired]
  | stepped (.ok (size, complete)) => [.stepped size complete]
  | unwrapped (.ok size) => [.unwrapped size]
  | wrapped (.ok size) => [.wrapped size]
  | _ => []

/-- The state that the call leads to, if it is over with the decision. -/
def leadsTo : Decision → Option HandshakeState
  | resolved (.ok _) => none
  | initiated (.ok _) => none
  | asked true => none
  | unwrapped (.ok _) => none
  | stepped (.ok (_, complete)) => some (.ofComplete complete)
  | wrapped (.ok _) => some .closed
  | _ => some .failed

/-- Whether the decisions made of answers tell errors, and errors only. -/
structure Faithful (decision : Except AuthError α → Decision) : Prop where
  ok : ∀ value, (decision (.ok value)).error? = none
  error : ∀ error, (decision (.error error)).error? = some error

theorem ofResolved_faithful : Faithful (ofResolved (κ := κ)) :=
  ⟨fun _ => rfl, fun _ => rfl⟩

theorem ofInitiated_faithful : Faithful (ofInitiated (χ := χ)) :=
  ⟨fun _ => rfl, fun _ => rfl⟩

theorem ofStepped_faithful : Faithful ofStepped :=
  ⟨fun _ => rfl, fun _ => rfl⟩

theorem ofUnwrapped_faithful : Faithful ofUnwrapped :=
  ⟨fun _ => rfl, fun _ => rfl⟩

theorem ofWrapped_faithful : Faithful ofWrapped :=
  ⟨fun _ => rfl, fun _ => rfl⟩

theorem leadsTo_ne_start (decision : Decision) : decision.leadsTo ≠ some .start := by
  unfold leadsTo
  split
  case h_5 complete => cases complete <;> decide
  all_goals decide

end Decision

/-- The record of a note of the exchange itself, or of a provider's own record. -/
def HandshakeNote.record : HandshakeNote LogRecord → LogRecord :=
  HandshakeNote.logRecord id

namespace Disclosure

/-- What is logged from a decision of the provider to the next. -/
def echo (operation : Operation) (disclosure : Disclosure) : List LogRecord :=
  disclosure.records ++ match disclosure.decision.error? with
    | some error => [HandshakeNote.record (.failed error operation.workingState)]
    | none => disclosure.decision.noted.map HandshakeNote.record

/-- The state that disclosures in turn lead to, if the call is over with the last of them. -/
inductive Leads : List Disclosure → Option HandshakeState → Prop where
  | nil : Leads [] none
  | last {disclosure : Disclosure} {state : HandshakeState}
      (hlast : disclosure.decision.leadsTo = some state) : Leads [disclosure] (some state)
  | cons {disclosure : Disclosure} {later : List Disclosure} {state? : Option HandshakeState}
      (hfirst : disclosure.decision.leadsTo = none) (hlater : Leads later state?) :
      Leads (disclosure :: later) state?

namespace Leads

theorem single (disclosure : Disclosure) : Leads [disclosure] disclosure.decision.leadsTo := by
  cases hleads : disclosure.decision.leadsTo with
  | none => exact .cons hleads .nil
  | some state => exact .last hleads

theorem append {events later : List Disclosure} {state? : Option HandshakeState}
    (hevents : Leads events none) (hlater : Leads later state?) :
    Leads (events ++ later) state? := by
  induction events with
  | nil => exact hlater
  | cons disclosure events ih =>
      cases hevents with
      | cons hfirst hrest => exact .cons hfirst (ih hrest)

theorem ne_start {events : List Disclosure} {state? : Option HandshakeState}
    (hleads : Leads events state?) : state? ≠ some .start := by
  induction hleads with
  | nil => simp
  | last hlast => exact hlast ▸ Decision.leadsTo_ne_start _
  | cons _ _ ih => exact ih

/-- No call is over before another one that discloses the same. -/
theorem unique {events events' later later' : List Disclosure} {state state' : HandshakeState}
    (hleads : Leads events (some state)) (hleads' : Leads events' (some state'))
    (hsame : events ++ later = events' ++ later') : events = events' ∧ state = state' := by
  induction events generalizing events' with
  | nil => cases hleads
  | cons disclosure events ih =>
      cases hleads with
      | last hlast =>
          cases hleads' with
          | last hlast' =>
              obtain ⟨rfl, -⟩ := List.cons.inj hsame
              exact ⟨rfl, Option.some.inj (hlast.symm.trans hlast')⟩
          | cons hfirst' =>
              obtain ⟨rfl, -⟩ := List.cons.inj hsame
              cases hlast.symm.trans hfirst'
      | cons hfirst hrest =>
          cases hleads' with
          | last hlast' =>
              obtain ⟨rfl, -⟩ := List.cons.inj hsame
              cases hfirst.symm.trans hlast'
          | cons _ hrest' =>
              obtain ⟨rfl, htail⟩ := List.cons.inj hsame
              obtain ⟨rfl, rfl⟩ := ih hrest hrest' htail
              exact ⟨rfl, rfl⟩

end Leads

end Disclosure

/-! ## Reports -/

theorem HandshakeNote.untraced_provider (see : ν → Option LogRecord) (entry : ν) :
    (HandshakeNote.provider entry).untraced see = LogRecord.untraced see entry := by
  cases hsee : see entry <;> simp [untraced, logged, LogRecord.untraced, seen, hsee, logRecord]

theorem HandshakeNote.filterMap_untraced_provider (see : ν → Option LogRecord) (notes : List ν) :
    (notes.map HandshakeNote.provider).filterMap (HandshakeNote.untraced see) =
      notes.filterMap (LogRecord.untraced see) := by
  rw [List.filterMap_map]
  exact congrArg (List.filterMap · notes) (funext (HandshakeNote.untraced_provider see))

/-- The record of a failure. -/
def failureRecord (operation : Operation) (error : AuthError) : LogRecord :=
  HandshakeNote.record (.failed error operation.workingState)

/-- What is still to be logged after a part of a call. -/
def owed (operation : Operation) (rest : α → List LogRecord) :
    Except AuthError α → List LogRecord
  | .error error => [failureRecord operation error]
  | .ok value => rest value

theorem Disclosure.echo_eq_owed {decision : Except AuthError α → Decision}
    (hdecision : Decision.Faithful decision) (operation : Operation)
    (answer : Except AuthError α) (records : List LogRecord) :
    echo operation ⟨decision answer, records⟩ =
      records ++ owed operation (fun value => (decision (.ok value)).noted.map HandshakeNote.record)
        answer := by
  cases answer with
  | error error => simp [echo, owed, hdecision.error, failureRecord]
  | ok value => simp [echo, owed, hdecision.ok]

namespace Action

/-- Whether a part of a call, where some records are due from before, logs these and the echo of
what is disclosed, and owes the rest. How it ends is told of the disclosures, the result and the
state. -/
def Reports (trace : σ → List Disclosure) (see : ν → Option LogRecord) (operation : Operation)
    (before : List LogRecord) (rest : α → List LogRecord) (action : Action σ (HandshakeNote ν) α)
    (state : σ) (ending : List Disclosure → Except AuthError α → σ → Prop) : Prop :=
  ∃ events, trace (action.run state).state = trace state ++ events ∧
    (action.run state).notes.filterMap (HandshakeNote.untraced see) ++
        owed operation rest (action.run state).result =
      before ++ events.flatMap (Disclosure.echo operation) ∧
    ending events (action.run state).result (action.run state).state

namespace Reports

variable {trace : σ → List Disclosure} {see : ν → Option LogRecord} {operation : Operation}
  {before : List LogRecord} {state : σ}

theorem pure {value : α} {rest : α → List LogRecord}
    {ending : List Disclosure → Except AuthError α → σ → Prop} (hrest : rest value = before)
    (hending : ending [] (.ok value) state) :
    Reports trace see operation before rest (Pure.pure value) state ending :=
  ⟨[], (List.append_nil _).symm, hrest.trans (List.append_nil _).symm, hending⟩

theorem fail {error : AuthError} {rest : α → List LogRecord}
    {ending : List Disclosure → Except AuthError α → σ → Prop}
    (hbefore : before = [failureRecord operation error])
    (hending : ending [] (.error error) state) :
    Reports trace see operation before rest (Action.fail error) state ending :=
  ⟨[], (List.append_nil _).symm, hbefore ▸ (List.append_nil _).symm, hending⟩

theorem imp {rest : α → List LogRecord} {action : Action σ (HandshakeNote ν) α}
    {middle ending : List Disclosure → Except AuthError α → σ → Prop}
    (haction : Reports trace see operation before rest action state middle)
    (hending : ∀ events answer reached, middle events answer reached →
      ending events answer reached) :
    Reports trace see operation before rest action state ending := by
  obtain ⟨events, htrace, hrecords, hmiddle⟩ := haction
  exact ⟨events, htrace, hrecords, hending _ _ _ hmiddle⟩

/-- What the first part owes is due from before for the second. -/
theorem bind {first : α → List LogRecord} {rest : β → List LogRecord}
    {action : Action σ (HandshakeNote ν) α} {next : α → Action σ (HandshakeNote ν) β}
    {middle : List Disclosure → Except AuthError α → σ → Prop}
    {ending : List Disclosure → Except AuthError β → σ → Prop}
    (haction : Reports trace see operation before first action state middle)
    (herror : ∀ events error reached, middle events (.error error) reached →
      ending events (.error error) reached)
    (hok : ∀ events value reached, middle events (.ok value) reached →
      Reports trace see operation (first value) rest (next value) reached fun later =>
        ending (events ++ later)) :
    Reports trace see operation before rest (action >>= next) state ending := by
  obtain ⟨events, htrace, hrecords, hmiddle⟩ := haction
  unfold Reports
  rw [run_bind]
  generalize action.run state = outcome at htrace hrecords hmiddle ⊢
  rcases outcome with ⟨error | value, reached, notes⟩
  · exact ⟨events, htrace, hrecords, herror _ _ _ hmiddle⟩
  · obtain ⟨later, hlater, hmore, hending⟩ := hok _ _ _ hmiddle
    refine ⟨events ++ later, ?_, ?_, hending⟩
    · rw [Outcome.andThen_ok, hlater, htrace, List.append_assoc]
    · rw [Outcome.andThen_ok, List.filterMap_append, List.append_assoc, hmore,
        ← List.append_assoc]
      have hrecords : notes.filterMap (HandshakeNote.untraced see) ++ first value =
          before ++ events.flatMap (Disclosure.echo operation) := hrecords
      rw [hrecords, List.append_assoc, List.flatMap_append]

theorem note_bind {entry : HandshakeNote ν} {record : LogRecord} {rest : α → List LogRecord}
    {next : Unit → Action σ (HandshakeNote ν) α}
    {ending : List Disclosure → Except AuthError α → σ → Prop}
    (hentry : entry.untraced see = some record)
    (hnext : Reports trace see operation before rest (next ()) state ending) :
    Reports trace see operation (record :: before) rest (Action.note entry >>= next) state
      ending := by
  obtain ⟨events, htrace, hrecords, hending⟩ := hnext
  refine ⟨events, htrace, ?_, hending⟩
  rw [run_bind, run_note, Outcome.andThen_ok, List.filterMap_append]
  simpa [hentry] using hrecords

theorem traced_bind {entry : HandshakeNote ν} {rest : α → List LogRecord}
    {next : Unit → Action σ (HandshakeNote ν) α}
    {ending : List Disclosure → Except AuthError α → σ → Prop}
    (hentry : entry.untraced see = none)
    (hnext : Reports trace see operation before rest (next ()) state ending) :
    Reports trace see operation before rest (Action.note entry >>= next) state ending := by
  obtain ⟨events, htrace, hrecords, hending⟩ := hnext
  refine ⟨events, htrace, ?_, hending⟩
  rw [run_bind, run_note, Outcome.andThen_ok, List.filterMap_append]
  simpa [hentry] using hrecords

theorem map {convert : α → β} {action : Action σ (HandshakeNote ν) α}
    {ending : List Disclosure → Except AuthError β → σ → Prop}
    (haction : Reports trace see operation before (fun _ => []) action state
      fun events answer => ending events (answer.map convert)) :
    Reports trace see operation before (fun _ => []) (convert <$> action) state ending := by
  obtain ⟨events, htrace, hrecords, hending⟩ := haction
  rw [Reports, run_map]
  refine ⟨events, htrace, ?_, hending⟩
  rw [← hrecords]
  cases (action.run state).result <;> rfl

theorem onSecond {own : σ} {rest : α → List LogRecord}
    {action : Action (List Disclosure × ω) (HandshakeNote ν) α} {state : List Disclosure × ω}
    {ending : List Disclosure → Except AuthError α → List Disclosure × ω → Prop}
    (haction : Reports Prod.fst see operation before rest action state ending) :
    Reports (fun state => state.2.1) see operation before rest action.onSecond (own, state)
      fun events answer reached => ending events answer reached.2 ∧ reached.1 = own := by
  obtain ⟨events, htrace, hrecords, hending⟩ := haction
  exact ⟨events, htrace, hrecords, hending, rfl⟩

section Asking

variable {decision : Except AuthError α → Decision}

/-- The provider's own records come first, and then what its decision is met with is owed. -/
theorem asked (hdecision : Decision.Faithful decision) (action : Action ω ν α)
    (state : List Disclosure × ω) :
    Reports Prod.fst see operation []
      (fun value => (decision (.ok value)).noted.map HandshakeNote.record)
      ((action.disclosing see decision).mapNotes HandshakeNote.provider) state
      fun events answer _ => Disclosure.Leads events (decision answer).leadsTo := by
  refine ⟨_, rfl, ?_, .single _⟩
  rw [run_mapNotes, HandshakeNote.filterMap_untraced_provider, List.nil_append,
    List.flatMap_singleton]
  exact (Disclosure.echo_eq_owed hdecision operation _ _).symm

theorem askedWithOwn (hdecision : Decision.Faithful decision)
    (action : Action (χ × ω) ν α) (context : χ) (state : List Disclosure × ω) :
    Reports Prod.fst see operation []
      (fun value => (decision (.ok value.1)).noted.map HandshakeNote.record)
      (((action.disclosingOn see decision).withOwn context).mapNotes HandshakeNote.provider) state
      fun events answer _ =>
        Disclosure.Leads events (decision (answer.map Prod.fst)).leadsTo := by
  have hown : ∀ answer : Except AuthError α,
      (answer.map (·, (action.run (context, state.2)).state.1)).map Prod.fst = answer := by
    intro answer
    cases answer <;> rfl
  refine ⟨_, rfl, ?_, ?_⟩
  · rw [run_mapNotes, HandshakeNote.filterMap_untraced_provider, List.nil_append,
      List.flatMap_singleton, Disclosure.echo_eq_owed hdecision]
    dsimp only [run_withOwn, disclosingOn]
    cases (action.run (context, state.2)).result <;> rfl
  · dsimp only [run_mapNotes, run_withOwn, disclosingOn]
    rw [hown]
    exact .single _

theorem askedOnContext (hdecision : Decision.Faithful decision)
    (action : Action (χ × ω) ν α) {exchange : Exchange χ} {context : χ}
    (hcontext : exchange.context = some context) (state : List Disclosure × ω) :
    Reports (fun state => state.2.1) see operation []
      (fun value => (decision (.ok value)).noted.map HandshakeNote.record)
      (Client.onContext (action.disclosingOn see decision)) (exchange, state)
      fun events answer reached => Disclosure.Leads events (decision answer).leadsTo ∧
        ∃ last, reached.1 = { exchange with context := some last } := by
  unfold Reports Client.onContext
  simp only [hcontext, HandshakeNote.filterMap_untraced_provider]
  refine ⟨_, rfl, ?_, .single _, _, rfl⟩
  rw [List.nil_append, List.flatMap_singleton]
  exact (Disclosure.echo_eq_owed hdecision operation _ _).symm

end Asking

end Reports

end Action

end KerberosLogin
