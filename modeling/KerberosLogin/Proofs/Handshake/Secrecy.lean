import KerberosLogin.Negotiate.Provider
import KerberosLogin.Proofs.Handshake.Correspondence
import KerberosLogin.Proofs.Handshake.Fallback
import KerberosLogin.Proofs.Resolver.Course
import KerberosLogin.Proofs.Text.Utf8
import KerberosLogin.StandIn.TicketCache.Mechanism

/-! # Passwords in the log

Two clients that differ in their passwords, and whose provider cannot tell the passwords
apart, do the same in every run and write the same log. Whether a password is empty shows,
and so does its size in bytes when it is sent; no more than that does.
-/

namespace KerberosLogin

variable {ω ω' ν ν' κ χ α η δ : Type}

/-! ## What is logged -/

/-- The record of a note, where an observer makes records of the provider's notes. -/
def HandshakeNote.logged (see : ν → Option LogRecord) (entry : HandshakeNote ν) :
    Option LogRecord :=
  (entry.seen see).map (HandshakeNote.logRecord id)

/-- The record of a note, where an observer makes records of the source's notes. -/
def ResolverNote.logged (see : ν → Option LogRecord) (entry : ResolverNote ν) :
    Option LogRecord :=
  (entry.seen see).map (ResolverNote.logRecord id)

theorem HandshakeNote.logged_some (log : ν → LogRecord) (entry : HandshakeNote ν) :
    entry.logged (fun note => some (log note)) = some (entry.logRecord log) := by
  cases entry <;> rfl

theorem HandshakeNote.filterMap_logged (see : ν → Option LogRecord)
    (notes : List (HandshakeNote ν)) :
    notes.filterMap (HandshakeNote.logged see) =
      (notes.filterMap (HandshakeNote.seen see)).map (HandshakeNote.logRecord id) :=
  List.map_filterMap.symm

theorem HandshakeNote.map_logRecord (log : ν → LogRecord) (notes : List (HandshakeNote ν)) :
    notes.map (HandshakeNote.logRecord log) =
      (notes.filterMap (HandshakeNote.seen fun note => some (log note))).map
        (HandshakeNote.logRecord id) := by
  rw [← HandshakeNote.filterMap_logged, funext (HandshakeNote.logged_some log)]
  exact congrFun List.filterMap_eq_map.symm notes

theorem ResolverNote.filterMap_logged (see : ν → Option LogRecord)
    (notes : List (ResolverNote ν)) :
    notes.filterMap (ResolverNote.logged see) =
      (notes.filterMap (ResolverNote.seen see)).map (ResolverNote.logRecord id) :=
  List.map_filterMap.symm

/-- Answers that are the same, or that send one password each. -/
inductive Client.Answer.Alike (first second : Password) : Answer → Answer → Prop where
  | same (answer : Answer) : Alike first second answer answer
  | sent : Alike first second (.initial (.passwordFallback (ClearPassword.payload first)))
      (.initial (.passwordFallback (ClearPassword.payload second)))

/-- Records that are the same, or that tell the size of one password each. -/
inductive LogRecord.Alike (first second : Password) : LogRecord → LogRecord → Prop where
  | same (record : LogRecord) : Alike first second record record
  | size : Alike first second
      ⟨.debug, "building clear password auth response",
        [("payload_len", .count (first.expose.utf8ByteSize + 1))]⟩
      ⟨.debug, "building clear password auth response",
        [("payload_len", .count (second.expose.utf8ByteSize + 1))]⟩

namespace ClearPassword

theorem length_payload (password : Password) :
    (payload password).length = password.expose.utf8ByteSize + 1 := by
  rw [payload, List.length_append, Utf8.length_encode, List.length_singleton]

theorem logRecord_alike (first second : Password) :
    LogRecord.Alike first second (logRecord (payload first).length)
      (logRecord (payload second).length) := by
  rw [length_payload, length_payload]
  exact .size

end ClearPassword

/-! ## A provider that is handed a password -/

/-- The same request with a password of its own. -/
def IdentityRequest.given (password : Password) (request : IdentityRequest) : IdentityRequest :=
  { request with password := some password }

theorem IdentityRequest.given_related (first second : Password) (request : IdentityRequest) :
    (request.given first).Related (fun password password' => password = first ∧ password' = second)
      (request.given second) :=
  ⟨rfl, rfl, .some ⟨rfl, rfl⟩⟩

/-- The same credential with a password of its own. -/
def InitiatorCredential.given (password : Password) :
    InitiatorCredential κ → InitiatorCredential κ
  | .embedded identity => .embedded { identity with password := password }
  | credential => credential

/-- The same provider, which is handed a password instead of the one it would get. -/
def SecurityProvider.given (password : Password) (provider : SecurityProvider ω ν κ χ) :
    SecurityProvider ω ν κ χ :=
  { provider with
    resolveCredentials := fun request env =>
      provider.resolveCredentials (request.given password) env
    initiate := fun target credential requirements =>
      provider.initiate target (credential.given password) requirements }

namespace Client

variable {client : Client ω ν κ χ} {first second : Password}

/-- The same client with a password of its own. -/
def given (password : Password) (client : Client ω ν κ χ) : Client ω ν κ χ :=
  { client with credentials := { client.credentials with password := some password } }

/-- The same client with a password that it does not hand on: the provider is handed another
one instead. -/
def handing (password handed : Password) (client : Client ω ν κ χ) : Client ω ν κ χ :=
  { client.given password with provider := client.provider.given handed }

theorem initiatorCredential_handing (client : Client ω ν κ χ)
    (hempty : first.expose.isEmpty = second.expose.isEmpty) (challenge : Challenge) :
    InitiatorCredential.given second <$>
        (client.handing first second).initiatorCredential challenge =
      (client.given second).initiatorCredential challenge := by
  have hidentity : (client.given second).explicitIdentity? challenge =
      ((client.handing first second).explicitIdentity? challenge).map fun identity =>
        { identity with password := second } := by
    simp only [explicitIdentity?, handing, given]
    cases client.credentials.username with
    | none => rfl
    | some user =>
        dsimp only
        rw [hempty]
        split
        · rfl
        · rfl
  have hcapabilities : (client.handing first second).provider.capabilities =
      (client.given second).provider.capabilities := rfl
  unfold initiatorCredential
  rw [hcapabilities]
  by_cases hembeds : (client.given second).provider.capabilities.contains
      Capabilities.embeddedIdentity
  · rw [if_pos hembeds, if_pos hembeds, hidentity]
    cases (client.handing first second).explicitIdentity? challenge with
    | none => rfl
    | some identity => rfl
  · rw [if_neg hembeds, if_neg hembeds, map_eq_pure_bind, bind_assoc]
    rfl

/-- The context is opened with the password that the provider is handed. What the client
holds tells no more than whether there is one. -/
theorem openContext_handing (client : Client ω ν κ χ)
    (hempty : first.expose.isEmpty = second.expose.isEmpty) (challenge : Challenge) :
    (client.handing first second).openContext challenge =
      (client.given second).openContext challenge := by
  unfold openContext
  rw [← client.initiatorCredential_handing hempty, map_eq_pure_bind, bind_assoc]
  simp only [pure_bind]
  rfl

theorem call_handing (client : Client ω ν κ χ)
    (hempty : first.expose.isEmpty = second.expose.isEmpty) {call : Call}
    (hnamed : ∀ initial, call = .begin initial → Challenge.decodeOptional initial ≠ .ok none) :
    (client.handing first second).call call = (client.given second).call call := by
  cases call with
  | begin initial =>
      have hbody : (client.handing first second).answerFirst initial =
          (client.given second).answerFirst initial := by
        unfold answerFirst
        rcases hpacket : Challenge.decodeOptional initial with fault | _ | challenge
        · rfl
        · exact absurd hpacket (hnamed initial rfl)
        · rw [Except.mapError, Action.ofExcept_ok_bind, Action.ofExcept_ok_bind]
          dsimp only
          rw [client.openContext_handing hempty]
      simp only [Client.call, begin, hbody]
  | proceed token => rfl
  | close message => rfl

/-! ## One call and many -/

/-- Outcomes of calls that differ in no more than the passwords that were sent. -/
structure Undistinguished (first second : Password) (see : ν → Option LogRecord)
    (outcome : Outcome (Exchange χ × ω) (HandshakeNote ν) Answer)
    (outcome' : Outcome (Exchange χ × ω') (HandshakeNote ν) Answer) : Prop where
  result : Outcome.ResultsRelated (Answer.Alike first second) outcome.result outcome'.result
  state : outcome.state.1.state = outcome'.state.1.state
  challenge : outcome.state.1.challenge = outcome'.state.1.challenge
  log : List.Forall₂ (LogRecord.Alike first second)
    (outcome.notes.filterMap (HandshakeNote.logged see))
    (outcome'.notes.filterMap (HandshakeNote.logged see))

variable {W : ω → ω → Prop} {K : κ → κ → Prop} {X : χ → χ → Prop} {see : ν → Option LogRecord}

theorem undistinguished_of_related
    {outcome outcome' : Outcome (Exchange χ × ω) (HandshakeNote ν) Answer}
    (hrelated : Outcome.Related (Outcome.PairRelated (Exchange.Related X) W)
      (HandshakeNote.seen see) (HandshakeNote.seen see) Eq outcome outcome') :
    Undistinguished first second see outcome outcome' := by
  obtain ⟨hresult, ⟨hexchange, -⟩, hnotes⟩ := hrelated
  constructor
  case result =>
    rw [Outcome.eq_of_resultsRelated hresult]
    exact Outcome.resultsRelated_refl .same _
  case state => exact hexchange.state
  case challenge => exact hexchange.challenge
  case log =>
    rw [HandshakeNote.filterMap_logged, HandshakeNote.filterMap_logged, hnotes]
    exact List.forall₂_same.mpr fun record _ => .same record

theorem undistinguished_of_fallBack {initial : Option Bytes} {exchange exchange' : Exchange χ}
    (hpacket : Challenge.decodeOptional initial = .ok none) (hstate : exchange.state = .start)
    (hexchange : Exchange.Related X exchange exchange') {shared shared' : ω}
    (hshared : W shared shared') :
    Undistinguished first second see
        (((client.given first).call (.begin initial)).run (exchange, shared))
        (((client.given second).call (.begin initial)).run (exchange', shared')) ∧
      Outcome.PairRelated (Exchange.Related X) W
        (((client.given first).call (.begin initial)).run (exchange, shared)).state
        (((client.given second).call (.begin initial)).run (exchange', shared')).state := by
  have hstate' : exchange'.state = .start := hexchange.state ▸ hstate
  rw [run_call_of_fallBack shared hstate hpacket rfl,
    run_call_of_fallBack shared' hstate' hpacket rfl]
  refine ⟨⟨.sent, rfl, hexchange.challenge, ?_⟩, ⟨rfl, hexchange.challenge, hexchange.context⟩,
    hshared⟩
  exact .cons (.same _) (.cons (ClearPassword.logRecord_alike first second) .nil)

/-- One call: only a first packet that names no service is answered with the password. -/
theorem call_undistinguished (hempty : first.expose.isEmpty = second.expose.isEmpty)
    (hprovider : (client.provider.given first).Related W K X see see
      (client.provider.given second)) (call : Call) {state state' : Exchange χ × ω}
    (hstate : Outcome.PairRelated (Exchange.Related X) W state state') :
    Undistinguished first second see (((client.given first).call call).run state)
        (((client.given second).call call).run state') ∧
      Outcome.PairRelated (Exchange.Related X) W
        (((client.given first).call call).run state).state
        (((client.given second).call call).run state').state := by
  -- These two clients differ in their providers only, which is what `call_related` is about.
  have hclient : Related W K X see see (client.handing first first)
      (client.handing first second) := ⟨hprovider, rfl, rfl⟩
  by_cases hnamed : ∀ initial, call = .begin initial → Challenge.decodeOptional initial ≠ .ok none
  · have hrelated := call_related hclient call state state' hstate
    rw [client.call_handing rfl hnamed, client.call_handing hempty hnamed] at hrelated
    exact ⟨undistinguished_of_related hrelated, hrelated.state⟩
  · -- This packet is answered with the password itself, if it is time for it.
    push Not at hnamed
    obtain ⟨initial, rfl, hpacket⟩ := hnamed
    obtain ⟨exchange, shared⟩ := state
    obtain ⟨exchange', shared'⟩ := state'
    obtain ⟨hexchange, hshared⟩ := hstate
    by_cases hstart : exchange.state = Operation.begin.requiredState
    · exact undistinguished_of_fallBack hpacket hstart hexchange hshared
    · have hstart' : exchange'.state ≠ Operation.begin.requiredState := hexchange.state ▸ hstart
      have hrelated : Outcome.Related (Outcome.PairRelated (Exchange.Related X) W)
          (HandshakeNote.seen see) (HandshakeNote.seen see) Eq
          (((client.given first).call (.begin initial)).run (exchange, shared))
          (((client.given second).call (.begin initial)).run (exchange', shared')) := by
        rw [call_eq_perform, call_eq_perform]
        have hrun := run_perform_refused hstart ((client.given first).body (.begin initial)) shared
        have hrun' :=
          run_perform_refused hstart' ((client.given second).body (.begin initial)) shared'
        rw [Call.operation, hrun, hrun', hexchange.state]
        exact ⟨rfl, ⟨hexchange, hshared⟩, rfl⟩
      exact ⟨undistinguished_of_related hrelated, hrelated.state⟩

theorem run_undistinguished (hempty : first.expose.isEmpty = second.expose.isEmpty)
    (hprovider : (client.provider.given first).Related W K X see see
      (client.provider.given second)) (calls : List Call) {state state' : Exchange χ × ω}
    (hstate : Outcome.PairRelated (Exchange.Related X) W state state') :
    List.Forall₂ (Undistinguished first second see) ((client.given first).run calls state)
      ((client.given second).run calls state') := by
  induction calls generalizing state state' with
  | nil => exact .nil
  | cons call calls ih =>
      obtain ⟨houtcome, hreached⟩ := call_undistinguished hempty hprovider call hstate
      exact .cons houtcome (ih hreached)

end Client

/-! ## Credentials on their own -/

namespace CredentialSource

/-- Two passwords in one request are as good as each other to a source that cannot tell them
apart, and to the log. -/
theorem resolve_undistinguished {W : ω → ω → Prop} {see : ν → Option LogRecord}
    {source : CredentialSource ω ν η} {first second : Password}
    (hsource : source.Related W (fun password password' => password = first ∧ password' = second)
      see see source) (env : CacheEnvironment) (request : IdentityRequest) {shared shared' : ω}
    (hshared : W shared shared') :
    let outcome := (source.resolve env (request.given first)).run shared
    let outcome' := (source.resolve env (request.given second)).run shared'
    outcome.result = outcome'.result ∧
      outcome.notes.filterMap (ResolverNote.logged see) =
        outcome'.notes.filterMap (ResolverNote.logged see) := by
  intro outcome outcome'
  obtain ⟨hresult, -, hnotes⟩ :=
    resolve_related hsource (request.given_related first second) env shared shared' hshared
  refine ⟨Outcome.eq_of_resultsRelated hresult, ?_⟩
  rw [ResolverNote.filterMap_logged, ResolverNote.filterMap_logged, hnotes]

end CredentialSource

/-! ## Backends that cannot tell passwords apart -/

theorem SecurityProvider.related_refl (provider : SecurityProvider ω ν κ χ) (see : ν → Option δ) :
    provider.Related Eq Eq Eq see see provider := by
  have hpair : ∀ state state' : χ × ω, Outcome.PairRelated Eq Eq state state' ↔ state = state' :=
    fun _ _ => Prod.ext_iff.symm
  constructor
  case name => rfl
  case capabilities => rfl
  case resolveCredentials =>
    intro request env
    exact .refl (fun _ _ => Iff.rfl) (fun _ => ⟨rfl, rfl, rfl⟩) _
  case initiate =>
    intro target requirements credential credential' hcredential
    obtain rfl := InitiatorCredential.eq_of_related hcredential
    exact .refl (fun _ _ => Iff.rfl) (fun _ => rfl) _
  case isComplete =>
    intro context context' hcontext
    obtain rfl := (hpair _ _).mp hcontext
    exact ⟨rfl, (hpair _ _).mpr rfl⟩
  case step => exact fun _ => .refl hpair (fun _ => rfl) _
  case wrap => exact fun _ _ => .refl hpair (fun _ => rfl) _
  case unwrap => exact fun _ => .refl hpair (fun _ => rfl) _

namespace Gssapi.Mechanism

variable {μ ξ γ : Type} {library : Mechanism ω μ η ξ γ} {first second : Password}

theorem source_related (processEnv : CacheEnvironment)
    (hlibrary : ∀ name set, library.acquireWithPassword name first set =
      library.acquireWithPassword name second set) (see : CacheLocation → Option δ) :
    (library.source processEnv).Related Eq
      (fun password password' => password = first ∧ password' = second) see see
      (library.source processEnv) := by
  constructor
  case cached => exact fun _ => .refl (fun _ _ => Iff.rfl) (fun _ => rfl) _
  case acquire =>
    intro principal password password' hpasswords
    rw [hpasswords.1, hpasswords.2]
    have hsame : (library.source processEnv).acquireWithPassword principal first =
        (library.source processEnv).acquireWithPassword principal second := by
      simp only [source, acquireFresh, hlibrary]
    rw [hsame]
    exact .refl (fun _ _ => Iff.rfl) (fun _ => rfl) _
  case store => exact fun _ _ => .refl (fun _ _ => Iff.rfl) (fun _ => rfl) _

/-- A mechanism that cannot tell two passwords apart makes a provider that cannot. -/
theorem provider_given (processEnv : CacheEnvironment)
    (hlibrary : ∀ name set, library.acquireWithPassword name first set =
      library.acquireWithPassword name second set) :
    (library.provider processEnv).given first = (library.provider processEnv).given second := by
  have hresolve : ∀ (request : IdentityRequest) env,
      (library.source processEnv).resolve env (request.given first) =
        (library.source processEnv).resolve env (request.given second) := by
    intro request env
    -- With every note seen, related actions are equal.
    have hrelated := CredentialSource.resolve_related
      (source_related processEnv hlibrary some) (request.given_related first second) env
    have hall : ResolverNote.seen (some : CacheLocation → _) = some :=
      funext ResolverNote.seen_some
    unfold CredentialSource.ActRelated at hrelated
    rw [hall] at hrelated
    exact hrelated.eq
  have hinitiate : ∀ target (credential : InitiatorCredential η) requirements,
      library.initiate target (credential.given first) requirements =
        library.initiate target (credential.given second) requirements := by
    intro target credential requirements
    cases credential <;> rfl
  simp only [SecurityProvider.given, provider, hresolve, hinitiate]

end Gssapi.Mechanism

namespace Negotiate.Package

variable {υ ψ : Type} {library : Package ω υ η ψ} {first second : Password}

/-- A package that cannot tell two passwords apart makes a provider that cannot. -/
theorem provider_given (hlibrary : ∀ name, library.acquire (some (name, first)) =
      library.acquire (some (name, second))) :
    library.provider.given first = library.provider.given second := by
  have hinitiate : ∀ target (credential : InitiatorCredential Empty) requirements,
      library.initiate target (credential.given first) requirements =
        library.initiate target (credential.given second) requirements := by
    intro target credential requirements
    cases credential with
    | resolved handle => exact handle.elim
    | default => rfl
    | embedded identity =>
        simp only [InitiatorCredential.given, initiate, identity?, bind_assoc, pure_bind, hlibrary]
        rfl
  simp only [SecurityProvider.given, provider, hinitiate]

end Negotiate.Package

/-- Passwords do not show in the log. Let a client hold one of two passwords, both of them
empty or neither, and let its provider answer alike whichever of them it is handed. Then
every run does the same, except that a password that is sent is the one that the client
holds, and every run is logged alike, except for the size of that password. Let a source
answer alike for both passwords: then credentials are chosen alike, and with the same log. -/
theorem Client.passwords_undistinguished {first second : Password} (client : Client ω ν κ χ)
    {W : ω → ω → Prop} {K : κ → κ → Prop} {X : χ → χ → Prop} (see : ν → Option LogRecord)
    (hprovider : (client.provider.given first).Related W K X see see
      (client.provider.given second))
    (source : CredentialSource ω' ν' η) {S : ω' → ω' → Prop} (read : ν' → Option LogRecord)
    (hsource : source.Related S (fun password password' => password = first ∧ password' = second)
      read read source) :
    (first.expose.isEmpty = second.expose.isEmpty → ∀ calls shared shared', W shared shared' →
      List.Forall₂ (Undistinguished first second see) ((client.given first).run calls ({}, shared))
        ((client.given second).run calls ({}, shared'))) ∧
      ∀ env (request : IdentityRequest) shared shared', S shared shared' →
        let outcome := (source.resolve env (request.given first)).run shared
        let outcome' := (source.resolve env (request.given second)).run shared'
        outcome.result = outcome'.result ∧
          outcome.notes.filterMap (ResolverNote.logged read) =
            outcome'.notes.filterMap (ResolverNote.logged read) := by
  constructor
  · intro hempty calls shared shared' hshared
    exact run_undistinguished hempty hprovider calls ⟨⟨rfl, rfl, .none⟩, hshared⟩
  · intro env request shared shared' hshared
    exact CredentialSource.resolve_undistinguished hsource env request hshared

/-- Passwords of different sizes are sent, and show no more than their sizes. -/
theorem Client.sizes_told :
    let env : CacheEnvironment := ⟨some "c", none, []⟩
    let library := StandIn.TicketCache.mechanism
    let client : Client _ _ _ _ := ⟨library.provider env, ⟨some "alice", none⟩, env⟩
    let see (note : Gssapi.Note) : Option LogRecord := some note.logRecord
    let read (location : CacheLocation) : Option LogRecord := some location.logRecord
    let host := StandIn.TicketCache.Host.empty
    (client.provider.given ⟨"secret"⟩).Related Eq Eq Eq see see
        (client.provider.given ⟨"long secret"⟩) ∧
      List.Forall₂ (Undistinguished ⟨"secret"⟩ ⟨"long secret"⟩ see)
        ((client.given ⟨"secret"⟩).run [.begin none, .close []] ({}, host))
        ((client.given ⟨"long secret"⟩).run [.begin none, .close []] ({}, host)) ∧
      ∀ request : IdentityRequest,
        let outcome := ((library.source env).resolve env (request.given ⟨"secret"⟩)).run host
        let outcome' := ((library.source env).resolve env (request.given ⟨"long secret"⟩)).run host
        outcome.result = outcome'.result ∧
          outcome.notes.filterMap (ResolverNote.logged read) =
            outcome'.notes.filterMap (ResolverNote.logged read) := by
  intro env library client see read host
  have hlibrary : ∀ name set, library.acquireWithPassword name ⟨"secret"⟩ set =
      library.acquireWithPassword name ⟨"long secret"⟩ set := fun _ _ => rfl
  have hprovider : (client.provider.given ⟨"secret"⟩).Related Eq Eq Eq see see
      (client.provider.given ⟨"long secret"⟩) := by
    have hgiven := Gssapi.Mechanism.provider_given env hlibrary
    rw [hgiven]
    exact SecurityProvider.related_refl _ see
  obtain ⟨hruns, hrequests⟩ := client.passwords_undistinguished see hprovider
    (library.source env) read (Gssapi.Mechanism.source_related env hlibrary read)
  refine ⟨hprovider, hruns (by decide) _ _ _ rfl, ?_⟩
  intro request
  exact hrequests env request host host rfl

end KerberosLogin
