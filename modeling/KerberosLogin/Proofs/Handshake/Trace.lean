import KerberosLogin.Proofs.Handshake.Correspondence
import KerberosLogin.Proofs.Recording

/-! # What reaches a provider

A provider is watched by writing down each call that reaches it or one of its
contexts, together with the answer. The questions whether a context is
established are written down as well, but are no calls. Watching changes
nothing: a client does over a watched provider what it does over the provider.
-/

namespace KerberosLogin

variable {σ ω ν κ χ α β : Type}

/-- What is seen of a provider. -/
inductive ProviderEvent (κ : Type) where
  | resolve (request : IdentityRequest) (env : CacheEnvironment)
      (answer : Except AuthError (ResolvedCredentials κ))
  | initiate (target : String) (credential : InitiatorCredential κ) (requirements : Requirements)
      (answer : Except AuthError Unit)
  | step (input : Option Bytes) (answer : Except AuthError StepOutput)
  /-- A context was asked whether it is established. -/
  | asked (complete : Bool)
  | unwrap (message : Bytes) (answer : Except AuthError Bytes)
  | wrap (payload : Bytes) (encrypt : Bool) (answer : Except AuthError Bytes)

namespace ProviderEvent

/-- The call, without its answer. -/
def call? : ProviderEvent κ → Option (ProviderCall κ)
  | resolve request env _ => some (.resolve request env)
  | initiate target credential requirements _ => some (.initiate target credential requirements)
  | step input _ => some (.step input)
  | asked _ => none
  | unwrap message _ => some (.unwrap message)
  | wrap payload encrypt _ => some (.wrap payload encrypt)

/-- The error that a call was answered with. -/
def error? : ProviderEvent κ → Option AuthError
  | resolve _ _ (.error error) => some error
  | initiate _ _ _ (.error error) => some error
  | step _ (.error error) => some error
  | unwrap _ (.error error) => some error
  | wrap _ _ (.error error) => some error
  | _ => none

/-- What a step was given and what it yielded. -/
def step? : ProviderEvent κ → Option (Option Bytes × Except AuthError StepOutput)
  | step input answer => some (input, answer)
  | _ => none

/-- The last step, with its answer. -/
def lastStep? (events : List (ProviderEvent κ)) :
    Option (Option Bytes × Except AuthError StepOutput) :=
  (events.filterMap step?).getLast?

theorem lastStep?_snoc_step (events : List (ProviderEvent κ)) (input : Option Bytes)
    (answer : Except AuthError StepOutput) :
    lastStep? (events ++ [step input answer]) = some (input, answer) := by
  rw [lastStep?, List.filterMap_append]
  exact List.getLast?_concat

theorem lastStep?_snoc (events : List (ProviderEvent κ)) {event : ProviderEvent κ}
    (hevent : event.step? = none) : lastStep? (events ++ [event]) = lastStep? events := by
  rw [lastStep?, List.filterMap_append, List.filterMap_cons_none hevent, List.filterMap_nil,
    List.append_nil, lastStep?]

end ProviderEvent

/-- The state of a provider beside what was written down. -/
abbrev Written (κ ω : Type) : Type :=
  List (ProviderEvent κ) × ω

namespace Action

/-- Runs an action of a provider and writes down how it was answered. -/
def watched (event : Except AuthError α → ProviderEvent κ) (action : Action ω ν α) :
    Action (Written κ ω) ν α where
  run := fun (trace, shared) =>
    let outcome := action.run shared
    ⟨outcome.result, (trace ++ [event outcome.result], outcome.state), outcome.notes⟩

/-- Runs an action of a context and writes down how it was answered. -/
def watchedOn (event : Except AuthError α → ProviderEvent κ) (action : Action (χ × ω) ν α) :
    Action (χ × Written κ ω) ν α where
  run := fun (context, trace, shared) =>
    let outcome := action.run (context, shared)
    ⟨outcome.result, (outcome.state.1, trace ++ [event outcome.result], outcome.state.2),
      outcome.notes⟩

theorem watched_related {V : α → α → Prop} (hvalue : ∀ value, V value value)
    (event : Except AuthError α → ProviderEvent κ) (action : Action ω ν α) :
    Related (fun watched shared => watched.2 = shared) some some V (action.watched event)
      action :=
  recorded_related hvalue event action

theorem watchedOn_related (event : Except AuthError α → ProviderEvent κ)
    (action : Action (χ × ω) ν α) :
    Related (Outcome.PairRelated Eq fun watched shared => watched.2 = shared) some some Eq
      (action.watchedOn event) action := by
  rintro ⟨context, trace, shared⟩ ⟨_, _⟩ ⟨rfl, rfl⟩
  exact ⟨Outcome.resultsRelated_refl (fun _ => rfl) _, ⟨rfl, rfl⟩, rfl⟩

end Action

theorem Exchange.Related.eq {exchange exchange' : Exchange χ}
    (hexchange : Exchange.Related Eq exchange exchange') : exchange = exchange' := by
  obtain ⟨state, challenge, context⟩ := exchange
  obtain ⟨state', challenge', context'⟩ := exchange'
  obtain ⟨hstate, hchallenge, hcontext⟩ := hexchange
  dsimp only at hstate hchallenge hcontext
  rw [hstate, hchallenge]
  cases hcontext with
  | none => rfl
  | some hcontext => rw [hcontext]

/-- The same operations, with all that is asked of a context written down. -/
def SecurityContext.watched (operations : SecurityContext ω ν χ) :
    SecurityContext (Written κ ω) ν χ where
  state := operations.state
  isComplete := fun (context, trace, shared) =>
    let (complete, context', shared') := operations.isComplete (context, shared)
    (complete, context', trace ++ [.asked complete], shared')
  step input := (operations.step input).watchedOn (.step input)
  wrap payload encrypt := (operations.wrap payload encrypt).watchedOn (.wrap payload encrypt)
  unwrap message := (operations.unwrap message).watchedOn (.unwrap message)

/-- The same provider, with all that reaches it written down. -/
def SecurityProvider.watched (provider : SecurityProvider ω ν κ χ) :
    SecurityProvider (Written κ ω) ν κ χ where
  name := provider.name
  capabilities := provider.capabilities
  resolveCredentials request env :=
    (provider.resolveCredentials request env).watched (.resolve request env)
  initiate target credential requirements :=
    (provider.initiate target credential requirements).watched
      fun answer => .initiate target credential requirements (answer.map fun _ => ())
  context := provider.context.watched

namespace Client

/-- The same client over the watched provider. -/
def watched (client : Client ω ν κ χ) : Client (Written κ ω) ν κ χ :=
  ⟨client.provider.watched, client.credentials, client.environment⟩

/-- What a call leaves behind, without what was written down. -/
def unwatched {σ : Type} (outcome : Outcome (Exchange χ × Written κ ω) σ α) :
    Outcome (Exchange χ × ω) σ α :=
  ⟨outcome.result, (outcome.state.1, outcome.state.2.2), outcome.notes⟩

theorem watched_related (client : Client ω ν κ χ) :
    Related (fun watched shared => watched.2 = shared) Eq Eq some some client.watched client where
  credentials := rfl
  environment := rfl
  provider := {
    name := rfl
    capabilities := rfl
    resolveCredentials := fun _ _ => Action.watched_related (fun _ => ⟨rfl, rfl, rfl⟩) _ _
    initiate := by
      intro target requirements credential credential' hcredential
      obtain rfl := InitiatorCredential.eq_of_related hcredential
      exact Action.watched_related (fun _ => rfl)
        (fun answer => .initiate target credential requirements (answer.map fun _ => ())) _
    isComplete := by
      rintro ⟨context, trace, shared⟩ ⟨_, _⟩ ⟨rfl, rfl⟩
      exact ⟨rfl, rfl, rfl⟩
    step := fun _ => Action.watchedOn_related _ _
    wrap := fun _ _ => Action.watchedOn_related _ _
    unwrap := fun _ => Action.watchedOn_related _ _ }

/-- What is done over a watched provider is done over the provider, note by note. -/
theorem unwatched_of_related
    {outcome : Outcome (Exchange χ × Written κ ω) (HandshakeNote ν) α}
    {outcome' : Outcome (Exchange χ × ω) (HandshakeNote ν) α}
    (hrelated : Outcome.Related
      (Outcome.PairRelated (Exchange.Related Eq) fun watched shared => watched.2 = shared)
      (HandshakeNote.seen some) (HandshakeNote.seen some) Eq outcome outcome') :
    unwatched outcome = outcome' := by
  obtain ⟨result, ⟨exchange, trace, shared⟩, notes⟩ := outcome
  obtain ⟨result', ⟨exchange', shared'⟩, notes'⟩ := outcome'
  obtain ⟨hresult, ⟨hexchange, hshared⟩, hnotes⟩ := hrelated
  have hall : HandshakeNote.seen (some : ν → Option ν) = some :=
    funext HandshakeNote.seen_some
  rw [hall, List.filterMap_some, List.filterMap_some] at hnotes
  simp only [unwatched, Outcome.mk.injEq, Prod.mk.injEq]
  exact ⟨Outcome.eq_of_resultsRelated hresult, ⟨hexchange.eq, hshared⟩, hnotes⟩

theorem unwatched_call (client : Client ω ν κ χ) (call : Call) (exchange : Exchange χ)
    (trace : List (ProviderEvent κ)) (shared : ω) :
    unwatched ((client.watched.call call).run (exchange, trace, shared)) =
      (client.call call).run (exchange, shared) := by
  apply unwatched_of_related
  refine call_related client.watched_related call _ _ ⟨⟨rfl, rfl, ?_⟩, rfl⟩
  cases exchange.context with
  | none => exact .none
  | some context => exact .some rfl

/-- Watching changes nothing. -/
theorem map_unwatched_history (client : Client ω ν κ χ) (calls : List Call)
    (exchange : Exchange χ) (trace : List (ProviderEvent κ)) (shared : ω) :
    (client.watched.history calls (exchange, trace, shared)).map
        (fun visit => unwatched visit.outcome) =
      client.run calls (exchange, shared) := by
  induction calls generalizing exchange trace shared with
  | nil => rfl
  | cons call calls ih =>
      have hcall := client.unwatched_call call exchange trace shared
      simp only [history, visit, run, List.map_cons, hcall, List.cons.injEq, true_and]
      rw [← hcall]
      exact ih _ _ _

/-- What was written down during an exchange. -/
def written (state : Exchange χ × Written κ ω) : List (ProviderEvent κ) :=
  state.2.1

end Client

/-! ## Adding to what was written down -/

/-- The record of a note of the exchange itself; what the provider notes is its own affair. -/
def HandshakeNote.ownRecord? (entry : HandshakeNote ν) : Option LogRecord :=
  (entry.seen fun _ => (none : Option Empty)).map (HandshakeNote.logRecord Empty.elim)

/-- The record with which an exchange reports that it has failed. -/
def HandshakeNote.failure? (entry : HandshakeNote ν) : Option LogRecord :=
  entry.ownRecord?.filter fun record => record.text = "Kerberos authentication failed"

@[simp]
theorem HandshakeNote.filterMap_failure?_provider (notes : List ν) :
    (notes.map HandshakeNote.provider).filterMap HandshakeNote.failure? = [] := by
  rw [List.filterMap_map]
  exact List.filterMap_eq_nil_iff.mpr fun _ _ => rfl

namespace Action

/-- What is said of the events, the result and the state in which an action ends. -/
abbrev Finish (σ κ α : Type) : Type :=
  List (ProviderEvent κ) → Except AuthError α → σ → Prop

/-- Whether an action from a state adds events to the trace in it, ends as
`finish` says, and notes no failure of the exchange. -/
def Adds (trace : σ → List (ProviderEvent κ)) (action : Action σ (HandshakeNote ν) α)
    (state : σ) (finish : Finish σ κ α) : Prop :=
  ∃ events, trace (action.run state).state = trace state ++ events ∧
    finish events (action.run state).result (action.run state).state ∧
    (action.run state).notes.filterMap HandshakeNote.failure? = []

namespace Adds

variable {trace : σ → List (ProviderEvent κ)} {state : σ}

theorem ofExcept {result : Except AuthError α} {finish : Finish σ κ α}
    (hfinish : finish [] result state) :
    (Action.ofExcept result : Action σ (HandshakeNote ν) α).Adds trace state finish :=
  ⟨[], (List.append_nil _).symm, hfinish, rfl⟩

theorem pure {value : α} {finish : Finish σ κ α}
    (hfinish : finish [] (.ok value) state) :
    (Pure.pure value : Action σ (HandshakeNote ν) α).Adds trace state finish :=
  ofExcept hfinish

theorem fail {error : AuthError} {finish : Finish σ κ α}
    (hfinish : finish [] (.error error) state) :
    (Action.fail error : Action σ (HandshakeNote ν) α).Adds trace state finish :=
  ofExcept hfinish

theorem bind {action : Action σ (HandshakeNote ν) α} {next : α → Action σ (HandshakeNote ν) β}
    {middle : Finish σ κ α} {finish : Finish σ κ β}
    (haction : action.Adds trace state middle)
    (herror : ∀ events error reached, middle events (.error error) reached →
      finish events (.error error) reached)
    (hok : ∀ events value reached, middle events (.ok value) reached →
      (next value).Adds trace reached fun later => finish (events ++ later)) :
    (action >>= next).Adds trace state finish := by
  obtain ⟨events, htrace, hmiddle, hnotes⟩ := haction
  rw [Adds, run_bind]
  generalize action.run state = outcome at htrace hmiddle hnotes ⊢
  obtain ⟨_ | value, reached, notes⟩ := outcome
  · exact ⟨events, htrace, herror _ _ _ hmiddle, hnotes⟩
  · obtain ⟨later, htrace', hfinish, hnotes'⟩ := hok _ _ _ hmiddle
    refine ⟨events ++ later, ?_, hfinish, ?_⟩
    · rw [Outcome.andThen_ok, htrace', htrace, List.append_assoc]
    · rw [Outcome.andThen_ok, List.filterMap_append, hnotes, hnotes', List.append_nil]

theorem note_bind {entry : HandshakeNote ν} {next : Unit → Action σ (HandshakeNote ν) β}
    {finish : Finish σ κ β} (hentry : entry.failure? = none)
    (hnext : (next ()).Adds trace state finish) :
    (Action.note entry >>= next).Adds trace state finish := by
  obtain ⟨events, htrace, hfinish, hnotes⟩ := hnext
  refine ⟨events, htrace, hfinish, ?_⟩
  rw [run_bind, run_note, Outcome.andThen_ok, List.filterMap_append, hnotes, List.append_nil,
    List.filterMap_cons_none hentry, List.filterMap_nil]

theorem watched (event : Except AuthError α → ProviderEvent κ) {action : Action ω ν α}
    {state : Written κ ω} {finish : Finish (Written κ ω) κ α}
    (hfinish : ∀ answer reached, finish [event answer] answer reached) :
    ((action.watched event).mapNotes HandshakeNote.provider).Adds Prod.fst state finish :=
  ⟨[_], rfl, hfinish _ _, HandshakeNote.filterMap_failure?_provider _⟩

theorem withOwn (event : Except AuthError α → ProviderEvent κ) {action : Action (χ × ω) ν α}
    {context : χ} {state : Written κ ω} {finish : Finish (Written κ ω) κ (α × χ)}
    (hfinish : ∀ answer context' reached,
      finish [event answer] (answer.map (·, context')) reached) :
    (((action.watchedOn event).withOwn context).mapNotes HandshakeNote.provider).Adds Prod.fst
      state finish :=
  ⟨[_], rfl, hfinish _ _ _, HandshakeNote.filterMap_failure?_provider _⟩

theorem onSecond {own : σ} {action : Action (Written κ ω) (HandshakeNote ν) α}
    {state : Written κ ω} {finish : Finish (Written κ ω) κ α}
    (haction : action.Adds Prod.fst state finish) :
    action.onSecond.Adds (fun state => state.2.1) (own, state) fun events answer reached =>
      finish events answer reached.2 ∧ reached.1 = own := by
  obtain ⟨events, htrace, hfinish, hnotes⟩ := haction
  exact ⟨events, htrace, ⟨hfinish, rfl⟩, hnotes⟩

theorem map {convert : α → β} {action : Action σ (HandshakeNote ν) α} {finish : Finish σ κ β}
    (haction : action.Adds trace state fun events answer => finish events (answer.map convert)) :
    (convert <$> action).Adds trace state finish := by
  obtain ⟨events, htrace, hfinish, hnotes⟩ := haction
  rw [Adds, run_map]
  exact ⟨events, htrace, hfinish, hnotes⟩

end Adds

end Action

end KerberosLogin
