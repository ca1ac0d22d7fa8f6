import KerberosLogin.Backend
import KerberosLogin.Proofs.Handshake.Initiation
import KerberosLogin.Proofs.Handshake.Secrecy

/-! # A backend behind the choice of one

The provider of a chosen backend hands each call on to the backend, and relabels what comes
back: contexts, handles of credentials and notes. A client over it does what a client over
the backend itself does, from call to call, and the backend is called alike by both. The
other backend has no part in this, whatever it is.
-/

namespace KerberosLogin

variable {ω ω' ν ν' ν₁ ν₂ δ κ κ' κ₁ χ χ' χ₁ χ₂ α : Type}

/-! ## Relabelling -/

/-- The same credential with its handle converted. -/
def InitiatorCredential.map (convert : κ → κ') : InitiatorCredential κ → InitiatorCredential κ'
  | .resolved handle => .resolved (convert handle)
  | .embedded identity => .embedded identity
  | .default => .default

theorem InitiatorCredential.eq_map_of_related {convert : κ → κ'}
    {credential' : InitiatorCredential κ'} {credential : InitiatorCredential κ}
    (hcredential : InitiatorCredential.Related (fun handle' handle => handle' = convert handle)
      credential' credential) : credential' = credential.map convert := by
  cases credential' <;> cases credential <;> simp_all [InitiatorCredential.Related, map]

/-- Whether an action on relabelled contexts does what another does on the contexts
themselves, and relabels its notes. -/
def Action.Relabels (context : χ → χ') (entry : ν → ν') (action : Action (χ' × ω) ν' α)
    (inner : Action (χ × ω) ν α) : Prop :=
  ∀ own shared, action.run (context own, shared) =
    ⟨(inner.run (own, shared)).result,
      (context (inner.run (own, shared)).state.1, (inner.run (own, shared)).state.2),
      (inner.run (own, shared)).notes.map entry⟩

theorem Action.Relabels.related {context : χ → χ₁} {entry : ν → ν₁}
    {action : Action (χ₁ × ω) ν₁ α} {inner : Action (χ × ω) ν α} {action' : Action (χ × ω') ν α}
    {W : ω → ω' → Prop} (haction : action.Relabels context entry inner) (see : ν₁ → Option δ)
    (hinner : Related (Outcome.PairRelated Eq W) some some Eq inner action') :
    Related (Outcome.PairRelated (fun own own' => own = context own') W) see
      (fun note => see (entry note)) Eq action action' := by
  rintro ⟨_, shared⟩ ⟨own, shared'⟩ ⟨rfl, hshared⟩
  obtain ⟨hresult, ⟨hkept, hreached⟩, hnotes⟩ := hinner (own, shared) (own, shared') ⟨rfl, hshared⟩
  rw [List.filterMap_some, List.filterMap_some] at hnotes
  rw [haction]
  refine ⟨hresult, ⟨congrArg context hkept, hreached⟩, ?_⟩
  rw [List.filterMap_map, hnotes]
  rfl

namespace SecurityProvider

/-- Whether a provider hands each call on to another one and relabels what comes back. Its
contexts are not asked whether they are established: their states say so. -/
structure Relabels (handle : κ → κ') (context : χ → χ') (entry : ν → ν')
    (provider : SecurityProvider ω ν' κ' χ') (inner : SecurityProvider ω ν κ χ) : Prop where
  name : provider.name = inner.name
  capabilities : provider.capabilities = inner.capabilities
  resolveCredentials : ∀ request env, provider.resolveCredentials request env =
    ResolvedCredentials.map handle <$> (inner.resolveCredentials request env).mapNotes entry
  initiate : ∀ target credential requirements,
    provider.initiate target (credential.map handle) requirements =
      context <$> (inner.initiate target credential requirements).mapNotes entry
  isComplete : ∀ own shared, provider.context.isComplete (context own, shared) =
    (decide (inner.context.state own = .established), context own, shared)
  step : ∀ input,
    (provider.context.step input).Relabels context entry (inner.context.step input)
  wrap : ∀ payload encrypt, (provider.context.wrap payload encrypt).Relabels context entry
    (inner.context.wrap payload encrypt)
  unwrap : ∀ message,
    (provider.context.unwrap message).Relabels context entry (inner.context.unwrap message)

/-- The same provider, whose contexts are established if their states say so. -/
def byState (provider : SecurityProvider ω ν κ χ) : SecurityProvider ω ν κ χ :=
  { provider with
    context := { provider.context with
      isComplete := fun context =>
        (decide (provider.context.state context.1 = .established), context) } }

/-- What corresponds to the provider within corresponds to the one around it. -/
theorem Relabels.related {handle : κ → κ₁} {context : χ → χ₁} {entry : ν → ν₁}
    {provider : SecurityProvider ω ν₁ κ₁ χ₁} {inner : SecurityProvider ω ν κ χ}
    {inner' : SecurityProvider ω' ν κ χ} {W : ω → ω' → Prop}
    (hprovider : provider.Relabels handle context entry inner) (see : ν₁ → Option δ)
    (hinner : inner.byState.Related W Eq Eq some some inner') :
    provider.Related W (fun held held' => held = handle held') (fun own own' => own = context own')
      see (fun note => see (entry note)) inner' where
  name := hprovider.name.trans hinner.name
  capabilities := hprovider.capabilities.trans hinner.capabilities
  resolveCredentials request env := by
    rw [hprovider.resolveCredentials]
    refine ((hinner.resolveCredentials request env).mapNotes_left entry see).map_left ?_
    rintro resolved resolved' ⟨hhandle, hprincipal, hreacquired⟩
    exact ⟨congrArg handle hhandle, hprincipal, hreacquired⟩
  initiate target requirements credential credential' hcredential := by
    rw [InitiatorCredential.eq_map_of_related hcredential, hprovider.initiate]
    have hinitiate :=
      hinner.initiate target requirements credential' credential' credential'.related_self
    exact (hinitiate.mapNotes_left entry see).map_left fun _ _ => congrArg context
  isComplete := by
    rintro ⟨_, shared⟩ ⟨own, shared'⟩ ⟨rfl, hshared⟩
    obtain ⟨hanswer, hkept, hreached⟩ :=
      hinner.isComplete (own, shared) (own, shared') ⟨rfl, hshared⟩
    rw [hprovider.isComplete]
    exact ⟨hanswer, congrArg context hkept, hreached⟩
  step input := (hprovider.step input).related see (hinner.step input)
  wrap payload encrypt := (hprovider.wrap payload encrypt).related see (hinner.wrap payload encrypt)
  unwrap message := (hprovider.unwrap message).related see (hinner.unwrap message)

end SecurityProvider

namespace Backend

/-- What is logged of a note of either backend. -/
def logRecord : Gssapi.Note ⊕ Negotiate.Note → LogRecord
  | .inl entry => entry.logRecord
  | .inr entry => entry.logRecord

theorem gssapi_relabels (inner : SecurityProvider ω ν₁ κ χ₁)
    (other : SecurityProvider ω ν₂ Empty χ₂) :
    (Backend.gssapi.provider inner other).Relabels id Sum.inl Sum.inl inner where
  name := rfl
  capabilities := rfl
  resolveCredentials request env := (id_map _).symm
  initiate target credential requirements := by cases credential <;> rfl
  isComplete _ _ := rfl
  step _ _ _ := rfl
  wrap _ _ _ _ := rfl
  unwrap _ _ _ := rfl

theorem negotiate_relabels (inner : SecurityProvider ω ν₂ Empty χ₂)
    (other : SecurityProvider ω ν₁ κ χ₁) :
    (Backend.negotiate.provider other inner).Relabels Empty.elim Sum.inr Sum.inr inner where
  name := rfl
  capabilities := rfl
  resolveCredentials _ _ := rfl
  initiate target credential requirements := by
    cases credential with
    | resolved handle => exact handle.elim
    | embedded identity => rfl
    | default => rfl
  isComplete _ _ := rfl
  step _ _ _ := rfl
  wrap _ _ _ _ := rfl
  unwrap _ _ _ := rfl

end Backend

/-! ## Watching the provider within -/

namespace ProviderEvent

/-- The calls that were written down, with their answers. -/
def calls (events : List (ProviderEvent κ)) : List (ProviderEvent κ) :=
  events.filter fun event => event.call?.isSome

theorem calls_snoc (events : List (ProviderEvent κ)) {event : ProviderEvent κ}
    (hevent : event.call?.isSome) : calls (events ++ [event]) = calls events ++ [event] := by
  rw [calls, List.filter_append, List.filter_singleton, hevent]
  rfl

theorem calls_snoc_asked (events : List (ProviderEvent κ)) (complete : Bool) :
    calls (events ++ [.asked complete]) = calls events := by
  rw [calls, List.filter_append]
  exact List.append_nil _

theorem filterMap_calls {look : ProviderEvent κ → Option δ} {events : List (ProviderEvent κ)}
    (hevents : events.filterMap look = []) : (calls events).filterMap look = [] := by
  rw [List.filterMap_eq_nil_iff] at hevents ⊢
  intro event hevent
  exact hevents event (List.mem_of_mem_filter hevent)

end ProviderEvent

/-- Whether the calls on the second side, and they alone, were written down on the first. -/
def CallsOnly : Written κ ω → Written κ ω → Prop
  | (trace, shared), (trace', shared') => trace = ProviderEvent.calls trace' ∧ shared = shared'

theorem Action.watched_callsOnly (event : Except AuthError α → ProviderEvent κ)
    (hevent : ∀ answer, (event answer).call?.isSome) {V : α → α → Prop}
    (hvalue : ∀ value, V value value) (action : Action ω ν α) :
    Related CallsOnly some some V (action.watched event) (action.watched event) := by
  rintro ⟨_, shared⟩ ⟨trace, _⟩ ⟨rfl, rfl⟩
  refine ⟨Outcome.resultsRelated_refl hvalue _, ⟨?_, rfl⟩, rfl⟩
  exact (ProviderEvent.calls_snoc trace (hevent _)).symm

theorem Action.watchedOn_callsOnly (event : Except AuthError α → ProviderEvent κ)
    (hevent : ∀ answer, (event answer).call?.isSome) (action : Action (χ × ω) ν α) :
    Related (Outcome.PairRelated Eq CallsOnly) some some Eq (action.watchedOn event)
      (action.watchedOn event) := by
  rintro ⟨context, _, shared⟩ ⟨_, trace, _⟩ ⟨rfl, rfl, rfl⟩
  refine ⟨Outcome.resultsRelated_refl (fun _ => rfl) _, ⟨rfl, ?_, rfl⟩, rfl⟩
  exact (ProviderEvent.calls_snoc trace (hevent _)).symm

namespace SecurityProvider

variable {provider : SecurityProvider ω ν κ χ}

section Default

variable (hdefault : provider.context.isComplete = fun context =>
  (decide (provider.context.state context.1 = .established), context))
include hdefault

theorem byState_eq_self : provider.byState = provider := by
  rw [byState, ← hdefault]

/-- Contexts that go by their states anyway are asked the same things as contexts that are
never asked whether they are established. -/
theorem watched_callsOnly :
    provider.watched.byState.Related CallsOnly Eq Eq some some provider.watched where
  name := rfl
  capabilities := rfl
  resolveCredentials request env :=
    Action.watched_callsOnly (.resolve request env) (fun _ => rfl) (fun _ => ⟨rfl, rfl, rfl⟩) _
  initiate target requirements credential credential' hcredential := by
    obtain rfl := InitiatorCredential.eq_of_related hcredential
    exact Action.watched_callsOnly
      (fun answer => .initiate target credential requirements (answer.map fun _ => ()))
      (fun _ => rfl) (fun _ => rfl) _
  isComplete := by
    rintro ⟨context, _, shared⟩ ⟨_, trace, _⟩ ⟨rfl, rfl, rfl⟩
    have hasked : provider.watched.context.isComplete (context, trace, shared) =
        (decide (provider.context.state context = .established), context,
          trace ++ [.asked (decide (provider.context.state context = .established))], shared) := by
      simp only [watched, SecurityContext.watched, hdefault]
    rw [hasked]
    exact ⟨rfl, rfl, (ProviderEvent.calls_snoc_asked trace _).symm, rfl⟩
  step input := Action.watchedOn_callsOnly (.step input) (fun _ => rfl) _
  wrap payload encrypt := Action.watchedOn_callsOnly (.wrap payload encrypt) (fun _ => rfl) _
  unwrap message := Action.watchedOn_callsOnly (.unwrap message) (fun _ => rfl) _

theorem watched_byState_related :
    provider.watched.byState.Related (fun watched shared => watched.2 = shared) Eq Eq some some
      provider :=
  { (Client.watched_related ⟨provider, {}, ⟨none, none, []⟩⟩).provider with
    isComplete := by
      rintro ⟨context, trace, shared⟩ ⟨_, _⟩ ⟨rfl, rfl⟩
      rw [hdefault]
      exact ⟨rfl, rfl, rfl⟩ }

end Default

end SecurityProvider

open ProviderEvent (initiate?)

/-- Whether at most one context is initiated, right after credentials were resolved and with
their handle. -/
inductive HandedOn : List (ProviderEvent κ) → Prop where
  | never {events : List (ProviderEvent κ)} (hnever : events.filterMap initiate? = []) :
      HandedOn events
  | once (request : IdentityRequest) (env : CacheEnvironment) (resolved : ResolvedCredentials κ)
      (target : String) (requirements : Requirements) (answer : Except AuthError Unit)
      {later : List (ProviderEvent κ)} (hlater : later.filterMap initiate? = []) :
      HandedOn (.resolve request env (.ok resolved) ::
        .initiate target (.resolved resolved.handle) requirements answer :: later)

namespace HandedOn

variable {events later : List (ProviderEvent κ)}

theorem append (hevents : HandedOn events) (hlater : later.filterMap initiate? = []) :
    HandedOn (events ++ later) := by
  cases hevents with
  | never hnever =>
      apply never
      rw [List.filterMap_append, hnever, hlater]
      rfl
  | @once request env resolved target requirements answer earlier hearlier =>
      have hrest : (earlier ++ later).filterMap initiate? = [] := by
        rw [List.filterMap_append, hearlier, hlater]
        rfl
      exact once request env resolved target requirements answer hrest

theorem calls (hevents : HandedOn events) : HandedOn (ProviderEvent.calls events) := by
  cases hevents with
  | never hnever => exact never (ProviderEvent.filterMap_calls hnever)
  | once request env resolved target requirements answer hlater =>
      exact once request env resolved target requirements answer
        (ProviderEvent.filterMap_calls hlater)

end HandedOn

namespace Client

section Dialogue

variable {client : Client ω ν κ χ} {challenge : Challenge} {events : List (ProviderEvent κ)}
  {answered : List Exchanged}

theorem Selection.exists_resolved (hembeds : client.embeds = false)
    {credential : InitiatorCredential κ}
    (hselection : client.Selection challenge events (.ok credential)) :
    ∃ resolved, events = [.resolve (client.request challenge) client.environment (.ok resolved)] ∧
      credential = .resolved resolved.handle := by
  generalize hanswer : Except.ok credential = result at hselection
  cases hselection with
  | own hown => cases hembeds.symm.trans hown
  | resolved _ answer =>
      cases answer with
      | error error => cases hanswer
      | ok resolved =>
          cases hanswer
          exact ⟨resolved, rfl, rfl⟩

theorem Opening.handedOn (hembeds : client.embeds = false) {answer : Except AuthError StepOutput}
    (hopening : client.Opening challenge events answer) : HandedOn events := by
  cases hopening with
  | unselected hselection => exact .never hselection.filterMap_initiate?
  | uninitiated hselection error =>
      obtain ⟨resolved, rfl, rfl⟩ := hselection.exists_resolved hembeds
      exact .once _ _ resolved _ _ _ rfl
  | stepped hselection answer =>
      obtain ⟨resolved, rfl, rfl⟩ := hselection.exists_resolved hembeds
      exact .once _ _ resolved _ _ _ rfl

theorem Negotiation.handedOn (hembeds : client.embeds = false) {complete : Bool}
    (hnegotiation : client.Negotiation challenge answered events complete) : HandedOn events := by
  induction hnegotiation with
  | opened _ hopening => exact hopening.handedOn hembeds
  | stepped _ token output ih => exact ih.append rfl

theorem Closing.filterMap_initiate? {message : Bytes} {answer : Except AuthError Bytes}
    (hclosing : Closing message events answer) : events.filterMap initiate? = [] := by
  cases hclosing with
  | unestablished => rfl
  | unverified error => rfl
  | verified plain answer => rfl

theorem Dialogue.handedOn (hembeds : client.embeds = false) {exchange : Exchange χ}
    (hdialogue : client.Dialogue answered events exchange) : HandedOn events := by
  cases hdialogue with
  | fresh => exact .never rfl
  | unbegun => exact .never rfl
  | fellBack => exact .never rfl
  | unopened _ hopening => exact hopening.handedOn hembeds
  | underway hnegotiation => exact hnegotiation.handedOn hembeds
  | unstepped hnegotiation => exact (hnegotiation.handedOn hembeds).append rfl
  | unclosed hnegotiation hclosing =>
      exact (hnegotiation.handedOn hembeds).append hclosing.filterMap_initiate?
  | closed hnegotiation hclosing =>
      exact (hnegotiation.handedOn hembeds).append hclosing.filterMap_initiate?

end Dialogue

/-! ## Runs -/

/-- Whether a call over relabelled contexts has ended like one over the contexts themselves:
with the same result, in the same state, with the same challenge, the same context and the
same log. -/
structure Mirrors (context : χ → χ') (log' : ν' → LogRecord) (log : ν → LogRecord)
    (W : ω' → ω → Prop) (outcome' : Outcome (Exchange χ' × ω') (HandshakeNote ν') Answer)
    (outcome : Outcome (Exchange χ × ω) (HandshakeNote ν) Answer) : Prop where
  result : outcome'.result = outcome.result
  state : outcome'.state.1.state = outcome.state.1.state
  challenge : outcome'.state.1.challenge = outcome.state.1.challenge
  context : outcome'.state.1.context = outcome.state.1.context.map context
  shared : W outcome'.state.2 outcome.state.2
  log : outcome'.notes.map (HandshakeNote.logRecord log') =
    outcome.notes.map (HandshakeNote.logRecord log)

/-- Whether a client over a provider around another does in a run what `client` does over the
one within, and whether the same calls reach that one. To tell the calls, `watching` is over
a provider around the watched one. -/
structure Transparent (context : χ → χ') (log' : ν' → LogRecord) (log : ν → LogRecord)
    (client' : Client ω ν' κ' χ') (watching : Client (Written κ ω) ν' κ' χ')
    (client : Client ω ν κ χ) (calls : List Call) (shared : ω) : Prop where
  outcomes : List.Forall₂ (Mirrors context log' log Eq) (client'.run calls ({}, shared))
    (client.run calls ({}, shared))
  watched : List.Forall₂ (Mirrors context log' log fun watched shared => watched.2 = shared)
    (watching.run calls (fresh shared)) (client.run calls ({}, shared))
  written : written (watching.reached calls (fresh shared)) =
    ProviderEvent.calls (written (client.watched.reached calls (fresh shared)))

theorem mirrors_of_related {context : χ → χ'} {log' : ν' → LogRecord} {log : ν → LogRecord}
    {W : ω' → ω → Prop} {outcome' : Outcome (Exchange χ' × ω') (HandshakeNote ν') Answer}
    {outcome : Outcome (Exchange χ × ω) (HandshakeNote ν) Answer}
    (hrelated : Outcome.Related
      (Outcome.PairRelated (Exchange.Related fun own' own => own' = context own) W)
      (HandshakeNote.seen fun note => some (log' note))
      (HandshakeNote.seen fun note => some (log note)) Eq outcome' outcome) :
    Mirrors context log' log W outcome' outcome := by
  obtain ⟨hresult, ⟨⟨hstate, hchallenge, hcontext⟩, hshared⟩, hnotes⟩ := hrelated
  refine ⟨Outcome.eq_of_resultsRelated hresult, hstate, hchallenge, ?_, hshared, ?_⟩
  · generalize outcome'.state.1.context = held' at hcontext
    generalize outcome.state.1.context = held at hcontext
    cases hcontext with
    | none => rfl
    | some hcontext => exact congrArg some hcontext
  · rw [HandshakeNote.map_logRecord log', HandshakeNote.map_logRecord log, hnotes]

section Transparent

variable {handle : κ → κ'} {context : χ → χ'} {entry : ν → ν'} {log' : ν' → LogRecord}
  {log : ν → LogRecord} {provider' : SecurityProvider ω ν' κ' χ'}
  {provider : SecurityProvider ω ν κ χ}

/-- A run over a provider around another, from a fresh exchange. -/
theorem run_mirrors {W : ω' → ω → Prop} {around : SecurityProvider ω' ν' κ' χ'}
    {inner : SecurityProvider ω' ν κ χ} (haround : around.Relabels handle context entry inner)
    (hinner : inner.byState.Related W Eq Eq some some provider)
    (hlog : ∀ note, log' (entry note) = log note) (credentials : Credentials)
    (env : CacheEnvironment) (calls : List Call) {shared' : ω'} {shared : ω}
    (hshared : W shared' shared) :
    List.Forall₂ (Mirrors context log' log W)
      (Client.run ⟨around, credentials, env⟩ calls ({}, shared'))
      (Client.run ⟨provider, credentials, env⟩ calls ({}, shared)) := by
  have hrelated := haround.related (fun note => some (log' note)) hinner
  simp only [hlog] at hrelated
  have hclient : Related W _ _ _ _ ⟨around, credentials, env⟩ ⟨provider, credentials, env⟩ :=
    ⟨hrelated, rfl, rfl⟩
  exact (run_related hclient calls ⟨⟨rfl, rfl, .none⟩, hshared⟩).imp fun _ _ => mirrors_of_related

theorem transparent_of_relabels {watching : SecurityProvider (Written κ ω) ν' κ' χ'}
    (hprovider : provider'.Relabels handle context entry provider)
    (hwatching : watching.Relabels handle context entry provider.watched)
    (hdefault : provider.context.isComplete = fun context =>
      (decide (provider.context.state context.1 = .established), context))
    (hlog : ∀ note, log' (entry note) = log note) (credentials : Credentials)
    (env : CacheEnvironment) (calls : List Call) (shared : ω) :
    Transparent context log' log ⟨provider', credentials, env⟩ ⟨watching, credentials, env⟩
      ⟨provider, credentials, env⟩ calls shared where
  outcomes := by
    have hself : provider.byState.Related Eq Eq Eq some some provider := by
      rw [SecurityProvider.byState_eq_self hdefault]
      exact provider.related_refl some
    exact run_mirrors hprovider hself hlog credentials env calls rfl
  watched :=
    run_mirrors hwatching (SecurityProvider.watched_byState_related hdefault) hlog credentials env
      calls rfl
  written := by
    have hrelated := hwatching.related some (SecurityProvider.watched_callsOnly hdefault)
    have hclient : Related CallsOnly _ _ _ _ ⟨watching, credentials, env⟩
        (Client.watched ⟨provider, credentials, env⟩) :=
      ⟨hrelated, rfl, rfl⟩
    have hfresh : Outcome.PairRelated
        (Exchange.Related fun (own' : χ') (own : χ) => own' = context own)
        (CallsOnly : Written κ ω → Written κ ω → Prop) (fresh shared) (fresh shared) :=
      ⟨⟨rfl, rfl, .none⟩, rfl, rfl⟩
    exact (reached_related hclient calls hfresh).2.1

end Transparent

/-- The choice of a backend goes unnoticed. Over the provider of a chosen backend a client
gives the same results and errors as over the backend itself, whatever the libraries below
answer and whatever the other backend is; it passes through the same states with the same
challenges and writes the same log. The backend is called alike with the same arguments.
GSSAPI initiates a context with the very handle that it has just resolved. -/
theorem backend_transparent {μ η ξ γ υ θ ψ : Type} (library : Gssapi.Mechanism ω μ η ξ γ)
    (processEnv : CacheEnvironment) (package : Negotiate.Package ω υ θ ψ)
    (credentials : Credentials) (env : CacheEnvironment) (calls : List Call) (shared : ω) :
    (∀ {χ : Type} (other : SecurityProvider ω Negotiate.Note Empty χ)
        (other' : SecurityProvider (Written η ω) Negotiate.Note Empty χ),
      let provider := library.provider processEnv
      let watching : Client _ _ _ _ :=
        ⟨Backend.gssapi.provider provider.watched other', credentials, env⟩
      Transparent Sum.inl Backend.logRecord Gssapi.Note.logRecord
          ⟨Backend.gssapi.provider provider other, credentials, env⟩ watching
          ⟨provider, credentials, env⟩ calls shared ∧
        HandedOn (written (watching.reached calls (fresh shared)))) ∧
      ∀ {κ χ : Type} (other : SecurityProvider ω Gssapi.Note κ χ)
        (other' : SecurityProvider (Written Empty ω) Gssapi.Note κ χ),
      let provider := package.provider
      Transparent Sum.inr Backend.logRecord Negotiate.Note.logRecord
        ⟨Backend.negotiate.provider other provider, credentials, env⟩
        ⟨Backend.negotiate.provider other' provider.watched, credentials, env⟩
        ⟨provider, credentials, env⟩ calls shared := by
  constructor
  · intro χ other other' provider watching
    have htransparent : Transparent Sum.inl Backend.logRecord Gssapi.Note.logRecord
        ⟨Backend.gssapi.provider provider other, credentials, env⟩ watching
        ⟨provider, credentials, env⟩ calls shared :=
      transparent_of_relabels (Backend.gssapi_relabels provider other)
        (Backend.gssapi_relabels provider.watched other') rfl (fun _ => rfl) credentials env calls
        shared
    refine ⟨htransparent, ?_⟩
    rw [htransparent.written]
    have hembeds : Client.embeds ⟨provider, credentials, env⟩ = false := by
      have hcapabilities : provider.capabilities = Flags.empty := rfl
      rw [embeds, hcapabilities]
      decide
    exact ((Client.dialogue ⟨provider, credentials, env⟩ calls shared).handedOn hembeds).calls
  · intro κ χ other other' provider
    exact transparent_of_relabels (Backend.negotiate_relabels provider other)
      (Backend.negotiate_relabels provider.watched other') rfl (fun _ => rfl) credentials env calls
      shared

end Client

end KerberosLogin
