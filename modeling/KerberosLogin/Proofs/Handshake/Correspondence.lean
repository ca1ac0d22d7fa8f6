import KerberosLogin.Proofs.Action
import KerberosLogin.Proofs.Handshake.History
import Mathlib.Data.List.Forall2

/-! # Clients over corresponding providers

Two providers correspond when each operation of the one does what the same
operation of the other does: it answers alike and leaves corresponding states,
contexts and credentials. Nothing is asked of what the correspondence relates. A
client cannot tell such providers apart, so its calls correspond as well, and
with them all its runs.
-/

namespace KerberosLogin

variable {ω ω' ν ν' δ κ κ' χ χ' α α' : Type}

/-- A note of an exchange, with what an observer makes of the provider's notes. -/
def HandshakeNote.seen (see : ν → Option δ) : HandshakeNote ν → Option (HandshakeNote δ)
  | .provider entry => (see entry).map .provider
  | .challengeReceived challenge name => some (.challengeReceived challenge name)
  | .explicitIdentity user realm => some (.explicitIdentity user realm)
  | .logonSession => some .logonSession
  | .credentialsResolved principal reacquired => some (.credentialsResolved principal reacquired)
  | .passwordFallback => some .passwordFallback
  | .clearPassword size => some (.clearPassword size)
  | .stepped tokenSize complete => some (.stepped tokenSize complete)
  | .clientToken token => some (.clientToken token)
  | .unwrapped size => some (.unwrapped size)
  | .closingMessage message => some (.closingMessage message)
  | .wrapped size => some (.wrapped size)
  | .failed error state => some (.failed error state)

theorem HandshakeNote.seen_some (entry : HandshakeNote ν) : entry.seen some = some entry := by
  cases entry <;> rfl

/-- Credentials for a context that correspond. -/
def InitiatorCredential.Related (K : κ → κ' → Prop) :
    InitiatorCredential κ → InitiatorCredential κ' → Prop
  | .resolved handle, .resolved handle' => K handle handle'
  | .embedded identity, .embedded identity' => identity = identity'
  | .default, .default => True
  | _, _ => False

theorem InitiatorCredential.related_self (credential : InitiatorCredential κ) :
    InitiatorCredential.Related Eq credential credential := by
  cases credential with
  | resolved handle => rfl
  | embedded identity => rfl
  | default => trivial

theorem InitiatorCredential.eq_of_related {credential credential' : InitiatorCredential κ}
    (hcredential : InitiatorCredential.Related Eq credential credential') :
    credential = credential' := by
  cases credential <;> cases credential' <;>
    simp_all [InitiatorCredential.Related]

/-- Resolved credentials that correspond. -/
structure ResolvedCredentials.Related (K : κ → κ' → Prop) (resolved : ResolvedCredentials κ)
    (resolved' : ResolvedCredentials κ') : Prop where
  handle : K resolved.handle resolved'.handle
  principal : resolved.principal = resolved'.principal
  reacquired : resolved.reacquired = resolved'.reacquired

/-- Exchanges that correspond. -/
structure Exchange.Related (X : χ → χ' → Prop) (exchange : Exchange χ) (exchange' : Exchange χ') :
    Prop where
  state : exchange.state = exchange'.state
  challenge : exchange.challenge = exchange'.challenge
  context : Option.Rel X exchange.context exchange'.context

/-- Providers that correspond. -/
structure SecurityProvider.Related (W : ω → ω' → Prop) (K : κ → κ' → Prop) (X : χ → χ' → Prop)
    (see : ν → Option δ) (see' : ν' → Option δ) (provider : SecurityProvider ω ν κ χ)
    (provider' : SecurityProvider ω' ν' κ' χ') : Prop where
  name : provider.name = provider'.name
  capabilities : provider.capabilities = provider'.capabilities
  resolveCredentials : ∀ request env,
    Action.Related W see see' (ResolvedCredentials.Related K)
      (provider.resolveCredentials request env) (provider'.resolveCredentials request env)
  initiate : ∀ target requirements credential credential',
    InitiatorCredential.Related K credential credential' →
    Action.Related W see see' X (provider.initiate target credential requirements)
      (provider'.initiate target credential' requirements)
  isComplete : ∀ context context', Outcome.PairRelated X W context context' →
    (provider.context.isComplete context).1 = (provider'.context.isComplete context').1 ∧
      Outcome.PairRelated X W (provider.context.isComplete context).2
        (provider'.context.isComplete context').2
  step : ∀ input, Action.Related (Outcome.PairRelated X W) see see' Eq
    (provider.context.step input) (provider'.context.step input)
  wrap : ∀ payload encrypt, Action.Related (Outcome.PairRelated X W) see see' Eq
    (provider.context.wrap payload encrypt) (provider'.context.wrap payload encrypt)
  unwrap : ∀ message, Action.Related (Outcome.PairRelated X W) see see' Eq
    (provider.context.unwrap message) (provider'.context.unwrap message)

namespace Client

variable {W : ω → ω' → Prop} {K : κ → κ' → Prop} {X : χ → χ' → Prop}
  {see : ν → Option δ} {see' : ν' → Option δ} {V : α → α' → Prop}

/-- Actions of two clients that correspond. -/
abbrev ActRelated (W : ω → ω' → Prop) (X : χ → χ' → Prop) (see : ν → Option δ)
    (see' : ν' → Option δ) (V : α → α' → Prop) (act : Act ω ν χ α) (act' : Act ω' ν' χ' α') :
    Prop :=
  Action.Related (Outcome.PairRelated (Exchange.Related X) W) (HandshakeNote.seen see)
    (HandshakeNote.seen see') V act act'

theorem update_related {change : Exchange χ → Exchange χ} {change' : Exchange χ' → Exchange χ'}
    (hchange : ∀ exchange exchange', Exchange.Related X exchange exchange' →
      Exchange.Related X (change exchange) (change' exchange')) :
    ActRelated W X see see' Eq (update change) (update change') := by
  apply Action.Related.modify
  rintro ⟨exchange, shared⟩ ⟨exchange', shared'⟩ ⟨hexchange, hshared⟩
  exact ⟨hchange exchange exchange' hexchange, hshared⟩

theorem moveTo_related (state : HandshakeState) :
    ActRelated (ω := ω) (ν := ν) W X see see' Eq
      (update fun exchange => { exchange with state := state })
      (update fun exchange => { exchange with state := state }) :=
  update_related fun _ _ hexchange => ⟨rfl, hexchange.challenge, hexchange.context⟩

theorem onContext_related {action : Action (χ × ω) ν α} {action' : Action (χ' × ω') ν' α'}
    (haction : Action.Related (Outcome.PairRelated X W) see see' V action action') :
    ActRelated W X see see' V (onContext action) (onContext action') := by
  rintro ⟨⟨state, challenge, context⟩, shared⟩ ⟨⟨state', challenge', context'⟩, shared'⟩
    ⟨⟨hstate, hchallenge, hcontext⟩, hshared⟩
  dsimp only at hstate hchallenge hcontext hshared
  cases hcontext with
  | none => exact ⟨rfl, ⟨⟨hstate, hchallenge, .none⟩, hshared⟩, rfl⟩
  | some hcontext =>
      obtain ⟨hresult, ⟨hkept, hreached⟩, hnotes⟩ :=
        haction (_, shared) (_, shared') ⟨hcontext, hshared⟩
      refine ⟨hresult, ⟨⟨hstate, hchallenge, .some hkept⟩, hreached⟩, ?_⟩
      simp only [onContext, List.filterMap_map]
      have hsee : ∀ {μ : Type} (look : μ → Option δ),
          HandshakeNote.seen look ∘ HandshakeNote.provider =
            fun entry => (look entry).map HandshakeNote.provider := fun _ => rfl
      rw [hsee, hsee, ← List.map_filterMap, ← List.map_filterMap, hnotes]

theorem perform_related {operation : Operation} {body : Act ω ν χ α} {body' : Act ω' ν' χ' α'}
    (hbody : ActRelated W X see see' V body body') :
    ActRelated W X see see' V (perform operation body) (perform operation body') := by
  rintro ⟨exchange, shared⟩ ⟨exchange', shared'⟩ ⟨hexchange, hshared⟩
  dsimp only at hexchange hshared
  have hstate := hexchange.state
  by_cases hallowed : exchange.state = operation.requiredState
  · have hallowed' : exchange'.state = operation.requiredState := hstate ▸ hallowed
    have hrelated := hbody ({ exchange with state := operation.workingState }, shared)
      ({ exchange' with state := operation.workingState }, shared')
      ⟨⟨rfl, hexchange.challenge, hexchange.context⟩, hshared⟩
    rcases hrun : body.run ({ exchange with state := operation.workingState }, shared) with
      ⟨error | value, ⟨reached, _⟩, notes⟩ <;>
    rcases hrun' : body'.run ({ exchange' with state := operation.workingState }, shared') with
      ⟨error' | value', ⟨reached', _⟩, notes'⟩ <;>
    rw [hrun, hrun'] at hrelated <;>
    obtain ⟨hresult, ⟨hreached, hend⟩, hnotes⟩ := hrelated
    · cases hresult
      rw [run_perform_error hallowed hrun, run_perform_error hallowed' hrun']
      refine ⟨rfl, ⟨⟨rfl, hreached.challenge, .none⟩, hend⟩, ?_⟩
      have hlast : reached.state = reached'.state := hreached.state
      simp only [List.filterMap_append, hlast]
      exact congrArg (· ++ [HandshakeNote.failed error reached'.state]) hnotes
    · exact hresult.elim
    · exact hresult.elim
    · rw [run_perform_ok hallowed hrun, run_perform_ok hallowed' hrun']
      exact ⟨hresult, ⟨hreached, hend⟩, hnotes⟩
  · have hallowed' : exchange'.state ≠ operation.requiredState := hstate ▸ hallowed
    rw [run_perform_refused hallowed, run_perform_refused hallowed', hstate]
    exact ⟨rfl, ⟨hexchange, hshared⟩, rfl⟩

theorem record_related (output : StepOutput) :
    ActRelated (ω := ω) W X see see' Eq (record output) (record output) := by
  refine Action.Related.bind_eq (moveTo_related _) fun _ => ?_
  refine Action.Related.note_bind (by rfl) ?_
  dsimp only
  cases output.token with
  | none => exact Action.Related.pure rfl
  | some token =>
      refine Action.Related.note_bind (by rfl) ?_
      exact Action.Related.pure rfl

variable {client : Client ω ν κ χ} {client' : Client ω' ν' κ' χ'}

/-- Clients over corresponding providers that are alike in all else. -/
structure Related (W : ω → ω' → Prop) (K : κ → κ' → Prop) (X : χ → χ' → Prop)
    (see : ν → Option δ) (see' : ν' → Option δ) (client : Client ω ν κ χ)
    (client' : Client ω' ν' κ' χ') : Prop where
  provider : client.provider.Related W K X see see' client'.provider
  credentials : client.credentials = client'.credentials
  environment : client.environment = client'.environment

theorem initiatorCredential_related (hclient : Related W K X see see' client client')
    (challenge : Challenge) :
    Action.Related W (HandshakeNote.seen see) (HandshakeNote.seen see')
      (InitiatorCredential.Related K) (client.initiatorCredential challenge)
      (client'.initiatorCredential challenge) := by
  have hidentity : client.explicitIdentity? challenge = client'.explicitIdentity? challenge := by
    rw [explicitIdentity?, explicitIdentity?, hclient.credentials]
  have hrequest : client.request challenge = client'.request challenge := by
    rw [request, request, hclient.credentials]
  rw [initiatorCredential, initiatorCredential, hidentity, hrequest, hclient.environment,
    hclient.provider.capabilities]
  split
  · cases client'.explicitIdentity? challenge with
    | none =>
        refine Action.Related.note_bind (by rfl) ?_
        exact Action.Related.pure trivial
    | some identity =>
        refine Action.Related.note_bind (by rfl) ?_
        exact Action.Related.pure rfl
  · refine Action.Related.bind (Action.Related.mapNotes .provider (fun _ => rfl) (fun _ => rfl)
      (hclient.provider.resolveCredentials _ _)) ?_
    rintro resolved resolved' ⟨hhandle, hprincipal, hreacquired⟩
    refine Action.Related.note_bind ?_ (Action.Related.pure hhandle)
    rw [hprincipal, hreacquired]
    rfl

theorem openContext_related (hclient : Related W K X see see' client client')
    (challenge : Challenge) :
    Action.Related W (HandshakeNote.seen see) (HandshakeNote.seen see')
      (Outcome.PairRelated Eq X) (client.openContext challenge)
      (client'.openContext challenge) := by
  rw [openContext, openContext, hclient.provider.name]
  refine Action.Related.note_bind (by rfl) ?_
  refine Action.Related.bind (initiatorCredential_related hclient challenge) ?_
  intro credential credential' hcredential
  refine Action.Related.bind (Action.Related.mapNotes .provider (fun _ => rfl) (fun _ => rfl)
    (hclient.provider.initiate _ _ _ _ hcredential)) ?_
  intro context context' hcontext
  exact Action.Related.mapNotes .provider (fun _ => rfl) (fun _ => rfl)
    ((hclient.provider.step none).withOwn hcontext)

theorem fallBack_related (hclient : Related W K X see see' client client') :
    ActRelated W X see see' Eq client.fallBack client'.fallBack := by
  rw [fallBack, fallBack, hclient.credentials]
  cases client'.credentials.password with
  | none => exact Action.Related.fail _
  | some password =>
      refine Action.Related.note_bind (by rfl) ?_
      refine Action.Related.bind_eq
        (Action.Related.note_bind (by rfl) (Action.Related.pure rfl)) fun payload => ?_
      exact Action.Related.bind_eq (moveTo_related .closed) fun _ => Action.Related.pure rfl

theorem answerFirst_related (hclient : Related W K X see see' client client')
    (initial : Option Bytes) :
    ActRelated W X see see' Eq (client.answerFirst initial) (client'.answerFirst initial) := by
  refine Action.Related.bind_eq (Action.Related.ofExcept ?_) fun challenge? => ?_
  · cases (Challenge.decodeOptional initial).mapError Challenge.Fault.toError <;> rfl
  cases challenge? with
  | none => exact fallBack_related hclient
  | some challenge =>
      refine Action.Related.bind (openContext_related hclient challenge).onSecond ?_
      rintro ⟨output, context⟩ ⟨_, context'⟩ ⟨rfl, hcontext⟩
      refine Action.Related.bind_eq (update_related fun _ _ hexchange => ?_) fun _ => ?_
      · exact ⟨hexchange.state, rfl, .some hcontext⟩
      exact Action.Related.bind_eq (record_related output) fun _ => Action.Related.pure rfl

theorem answerToken_related (hclient : Related W K X see see' client client')
    (token : Option Bytes) :
    ActRelated W X see see' Eq (client.answerToken token) (client'.answerToken token) := by
  exact Action.Related.bind_eq (onContext_related (hclient.provider.step token)) record_related

theorem askComplete_related (hclient : Related W K X see see' client client') :
    Action.Related (Outcome.PairRelated X W) see see' Eq client.provider.context.askComplete
      client'.provider.context.askComplete := by
  intro context context' hcontext
  obtain ⟨hanswer, hkept⟩ := hclient.provider.isComplete context context' hcontext
  exact ⟨hanswer, hkept, rfl⟩

theorem answerClosing_related (hclient : Related W K X see see' client client')
    (message : Bytes) :
    ActRelated W X see see' Eq (client.answerClosing message) (client'.answerClosing message) := by
  refine Action.Related.bind_eq (onContext_related (askComplete_related hclient)) fun complete => ?_
  split
  · refine Action.Related.bind_eq (onContext_related (hclient.provider.unwrap message))
      fun unwrapped => ?_
    refine Action.Related.note_bind (by rfl) (Action.Related.note_bind (by rfl) ?_)
    refine Action.Related.bind_eq
      (onContext_related (hclient.provider.wrap closingMessage false)) fun wrapped => ?_
    refine Action.Related.note_bind (by rfl) ?_
    exact Action.Related.bind_eq (moveTo_related .closed) fun _ => Action.Related.pure rfl
  · exact Action.Related.fail _

/-- A call does the same over corresponding providers. -/
theorem call_related (hclient : Related W K X see see' client client') (call : Call) :
    ActRelated W X see see' Eq (client.call call) (client'.call call) := by
  cases call with
  | begin initial =>
      exact (perform_related (answerFirst_related hclient initial)).map fun _ _ => congrArg _
  | proceed token =>
      exact (perform_related (answerToken_related hclient token)).map fun _ _ => congrArg _
  | close message =>
      exact (perform_related (answerClosing_related hclient message)).map fun _ _ => congrArg _

/-- Every run does the same over corresponding providers, call by call. -/
theorem run_related (hclient : Related W K X see see' client client') (calls : List Call)
    {state : Exchange χ × ω} {state' : Exchange χ' × ω'}
    (hstate : Outcome.PairRelated (Exchange.Related X) W state state') :
    List.Forall₂ (Outcome.Related (Outcome.PairRelated (Exchange.Related X) W)
      (HandshakeNote.seen see) (HandshakeNote.seen see') Eq)
      (client.run calls state) (client'.run calls state') := by
  induction calls generalizing state state' with
  | nil => exact .nil
  | cons call calls ih =>
      have hcall := call_related hclient call state state' hstate
      exact .cons hcall (ih hcall.state)

theorem reached_related (hclient : Related W K X see see' client client') (calls : List Call)
    {state : Exchange χ × ω} {state' : Exchange χ' × ω'}
    (hstate : Outcome.PairRelated (Exchange.Related X) W state state') :
    Outcome.PairRelated (Exchange.Related X) W (client.reached calls state)
      (client'.reached calls state') := by
  induction calls generalizing state state' with
  | nil => exact hstate
  | cons call calls ih => exact ih (call_related hclient call state state' hstate).state

end Client

end KerberosLogin
