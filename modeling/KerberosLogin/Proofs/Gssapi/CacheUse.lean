import KerberosLogin.Gssapi.Source
import KerberosLogin.Proofs.Resolver.Course

/-! # The cache that GSSAPI uses

GSSAPI reads the cache of the process, whatever cache was meant. Credentials are chosen
through it only where the environment of the request names that very cache; then nothing is
stored anywhere else. Elsewhere the mechanism is left alone, even if a password was given.
-/

namespace KerberosLogin

variable {ω ν μ ν' η ξ γ δ ε α β : Type}

namespace CredentialSource

variable {source : CredentialSource (List ε × ω) ν η} {kind : ε → Prop} {location : CacheLocation}

theorem reacquire_adds
    (hacquire : ∀ principal password, (source.acquireWithPassword principal password).AddsOnly kind)
    (hstore : ∀ handle, (source.store handle location).AddsOnly kind) (principal : Principal)
    (password : Password) : (source.reacquire location principal password).AddsOnly kind := by
  unfold reacquire
  apply Action.AddsOnly.note_bind
  apply ((hacquire principal password).mapNotes _).bind
  intro handle
  apply ((hstore handle).mapNotes _).bind
  intro _
  exact .note_bind (.pure _)

theorem resolveUnreadable_adds
    (hacquire : ∀ principal password, (source.acquireWithPassword principal password).AddsOnly kind)
    (hstore : ∀ handle, (source.store handle location).AddsOnly kind) (request : IdentityRequest)
    (error : AuthError) : (source.resolveUnreadable location request error).AddsOnly kind := by
  unfold resolveUnreadable
  split
  next =>
    apply Action.AddsOnly.note_bind
    split
    next => exact reacquire_adds hacquire hstore _ _
    next => exact .fail error
  next => exact .fail error

theorem resolveFound_adds
    (hacquire : ∀ principal password, (source.acquireWithPassword principal password).AddsOnly kind)
    (hstore : ∀ handle, (source.store handle location).AddsOnly kind) (request : IdentityRequest)
    (found : CachedCredential η) : (source.resolveFound location request found).AddsOnly kind := by
  unfold resolveFound
  dsimp only
  split
  next =>
    split
    next password _ => exact .note_bind (reacquire_adds hacquire hstore _ password)
    next =>
      split
      next => exact .fail _
      next => exact .note_bind (.pure _)
  next => exact .pure _

theorem locate_adds (entry : CacheLocation → ν) (env : CacheEnvironment) :
    (CacheLocation.locate entry env : Action (List ε × ω) ν CacheLocation).AddsOnly kind := by
  apply (Action.AddsOnly.ofExcept _).bind
  intro _
  exact .note_bind (.pure _)

/-- Choosing credentials writes down no more than the source does, where the cache is. -/
theorem resolve_adds {env : CacheEnvironment}
    (hlocation : CacheLocation.ofEnvironment env = .ok location)
    (hcached : (source.cached location).AddsOnly kind)
    (hacquire : ∀ principal password, (source.acquireWithPassword principal password).AddsOnly kind)
    (hstore : ∀ handle, (source.store handle location).AddsOnly kind) (request : IdentityRequest) :
    (source.resolve env request).AddsOnly kind := by
  unfold resolve
  rw [CacheLocation.locate_of_ok hlocation, bind_assoc]
  apply Action.AddsOnly.note_bind
  rw [pure_bind]
  apply ((hcached.mapNotes _).attempt).bind
  intro answer
  cases answer with
  | error error => exact resolveUnreadable_adds hacquire hstore request error
  | ok found => exact .note_bind (resolveFound_adds hacquire hstore request found)

end CredentialSource

namespace Gssapi

/-- A call of the mechanism that is made outside of any context. -/
inductive Call (μ η ξ : Type) where
  | emptySet
  | addKerberos (set : μ)
  | acquire (set : μ)
  | inspect (handle : η)
  | importName (name : Bytes)
  | canonicalize (name : ξ)
  | acquireWithPassword (name : ξ) (password : Password) (set : μ)
  | storeInto (handle : η) (cache : String)

/-- Whether a call that stores, stores into a cache. -/
def Call.StoresInto (location : CacheLocation) : Call μ η ξ → Prop
  | storeInto _ cache => cache = location.name
  | _ => True

/-- Writes down a call, and makes it. -/
def recordCall (entry : ε) (call : LibraryCall ω δ α) : LibraryCall (List ε × ω) δ α :=
  fun (trace, shared) =>
    let (answer, shared') := call shared
    (answer, trace ++ [entry], shared')

/-- Makes a call that works on a part of its own, and writes nothing down. -/
def passOn (call : LibraryCall (γ × ω) δ α) : LibraryCall (γ × List ε × ω) δ α :=
  fun (own, trace, shared) =>
    let (answer, own', shared') := call (own, shared)
    (answer, own', trace, shared')

namespace Mechanism

variable (library : Mechanism ω μ η ξ γ) (processEnv : CacheEnvironment)

/-- The same mechanism, which writes down the calls that are made outside of any context. -/
def recorded : Mechanism (List (Call μ η ξ) × ω) μ η ξ γ where
  emptySet := recordCall .emptySet library.emptySet
  addKerberos set := recordCall (.addKerberos set) (library.addKerberos set)
  acquire set := recordCall (.acquire set) (library.acquire set)
  inspect handle := recordCall (.inspect handle) (library.inspect handle)
  importName name := recordCall (.importName name) (library.importName name)
  canonicalize name := recordCall (.canonicalize name) (library.canonicalize name)
  acquireWithPassword name password set :=
    recordCall (.acquireWithPassword name password set)
      (library.acquireWithPassword name password set)
  storeInto handle cache := recordCall (.storeInto handle cache) (library.storeInto handle cache)
  newContext := library.newContext
  step input := passOn (library.step input)
  isComplete := library.isComplete
  wrap encrypt payload := passOn (library.wrap encrypt payload)
  unwrap message := passOn (library.unwrap message)

variable {library processEnv} {location : CacheLocation}

/-! ## Recording goes unnoticed -/

/-- An action over the recording, and the action it is a recording of. -/
abbrev Unnoticed (recording : Action (List (Call μ η ξ) × ω) ν α) (action : Action ω ν α) : Prop :=
  Action.Related (fun recorded shared => recorded.2 = shared) some some Eq recording action

theorem ofCall_unnoticed (explain : δ → AuthError) (entry : Call μ η ξ)
    (call : LibraryCall ω δ α) :
    Unnoticed (ν := ν) (Action.ofCall explain (recordCall entry call))
      (Action.ofCall explain call) := by
  intro state shared hshared
  subst hshared
  exact ⟨Outcome.resultsRelated_refl (fun _ => rfl) _, rfl, rfl⟩

theorem kerberosSet_unnoticed :
    Unnoticed (ν := ν) library.recorded.kerberosSet library.kerberosSet := by
  apply (ofCall_unnoticed _ _ _).bind_eq
  intro set
  exact ofCall_unnoticed _ _ _

theorem ensureReadable_unnoticed :
    Unnoticed (μ := μ) (η := η) (ξ := ξ) (ω := ω) (ensureReadable processEnv location)
      (ensureReadable processEnv location) := by
  apply Action.Related.bind_eq
  · exact CacheLocation.locate_related (fun _ => by rfl) processEnv
  intro default
  exact Action.Related.ite Iff.rfl (Action.Related.pure rfl) (Action.Related.fail _)

theorem source_unnoticed :
    CredentialSource.Related (fun recorded shared => recorded.2 = shared) Eq some some
      (library.recorded.source processEnv) (library.source processEnv) := by
  constructor
  case cached =>
    intro location
    apply ensureReadable_unnoticed.bind_eq
    intro _
    apply kerberosSet_unnoticed.bind_eq
    intro set
    apply (ofCall_unnoticed _ _ _).bind_eq
    intro handle
    apply (ofCall_unnoticed _ _ _).bind_eq
    intro info
    exact Action.Related.pure rfl
  case acquire =>
    intro principal password _ hpassword
    subst hpassword
    apply (ofCall_unnoticed _ _ _).bind_eq
    intro name
    apply kerberosSet_unnoticed.bind_eq
    intro set
    exact ofCall_unnoticed _ _ _
  case store =>
    intro handle location
    apply ensureReadable_unnoticed.bind_eq
    intro _
    exact ofCall_unnoticed _ _ _

/-! ## Where both environments name the same cache -/

theorem ofCall_adds {kind : ε → Prop} (explain : δ → AuthError) {entry : ε}
    (call : LibraryCall ω δ α) (hentry : kind entry) :
    (Action.ofCall explain (recordCall entry call) : Action _ ν α).AddsOnly kind := by
  intro state
  refine ⟨[entry], rfl, ?_⟩
  intro event hevent
  rw [List.mem_singleton.mp hevent]
  exact hentry

theorem kerberosSet_adds :
    (library.recorded.kerberosSet : Action _ ν μ).AddsOnly (Call.StoresInto location) := by
  apply (ofCall_adds _ _ (by trivial)).bind
  intro set
  exact ofCall_adds _ _ (by trivial)

theorem ensureReadable_adds {kind : ε → Prop} :
    (ensureReadable processEnv location : Action (List ε × ω) _ _).AddsOnly kind := by
  apply (CredentialSource.locate_adds _ _).bind
  intro default
  split
  next => exact .pure _
  next => exact .fail _

theorem resolve_storesInto (library : Mechanism ω μ η ξ γ) (processEnv : CacheEnvironment)
    {env : CacheEnvironment} (hlocation : CacheLocation.ofEnvironment env = .ok location)
    (request : IdentityRequest) :
    ((library.recorded.source processEnv).resolve env request).AddsOnly
      (Call.StoresInto location) := by
  apply CredentialSource.resolve_adds hlocation
  case hcached =>
    apply ensureReadable_adds.bind
    intro _
    apply kerberosSet_adds.bind
    intro set
    apply (ofCall_adds _ _ (by trivial)).bind
    intro handle
    apply (ofCall_adds _ _ (by trivial)).bind
    intro info
    exact .pure _
  case hacquire =>
    intro principal password
    apply (ofCall_adds _ _ (by trivial)).bind
    intro name
    apply kerberosSet_adds.bind
    intro set
    exact ofCall_adds _ _ (by trivial)
  case hstore =>
    intro handle
    apply ensureReadable_adds.bind
    intro _
    exact ofCall_adds _ _ (by rfl)

/-! ## Where they do not -/

/-- Whether an action ends before anything is changed, in an error of configuration. -/
def Misconfigured (action : Action ω ν α) : Prop :=
  ∀ state, ∃ error notes, action.run state = ⟨.error error, state, notes⟩ ∧
    error.kind = .configuration

namespace Misconfigured

theorem fail {error : AuthError} (hkind : error.kind = .configuration) :
    Misconfigured (Action.fail error : Action ω ν α) := by
  intro state
  exact ⟨error, [], rfl, hkind⟩

theorem bind {action : Action ω ν α} (haction : Misconfigured action)
    (next : α → Action ω ν β) : Misconfigured (action >>= next) := by
  intro state
  obtain ⟨error, notes, hrun, hkind⟩ := haction state
  refine ⟨error, notes, ?_, hkind⟩
  rw [Action.run_bind, hrun, Outcome.andThen_error]

theorem note_bind {entry : ν} {next : Unit → Action ω ν α} (hnext : Misconfigured (next ())) :
    Misconfigured (Action.note entry >>= next) := by
  intro state
  obtain ⟨error, notes, hrun, hkind⟩ := hnext state
  refine ⟨error, entry :: notes, ?_, hkind⟩
  rw [Action.run_bind, Action.run_note, Outcome.andThen_ok, hrun]
  rfl

/-- An error of configuration is not one that a password repairs. -/
theorem attempt_bind {action : Action ω ν α} (haction : Misconfigured action)
    {next : Except AuthError α → Action ω ν β}
    (hnext : ∀ error, error.kind = .configuration → next (.error error) = Action.fail error) :
    Misconfigured (action.attempt >>= next) := by
  intro state
  obtain ⟨error, notes, hrun, hkind⟩ := haction state
  refine ⟨error, notes, ?_, hkind⟩
  rw [Action.run_bind, Action.run_attempt, hrun, Outcome.andThen_ok, hnext error hkind,
    Action.run_fail, List.append_nil]

theorem mapNotes {action : Action ω ν α} (haction : Misconfigured action) (reword : ν → ν') :
    Misconfigured (action.mapNotes reword) := by
  intro state
  obtain ⟨error, notes, hrun, hkind⟩ := haction state
  exact ⟨error, notes.map reword, by rw [Action.run_mapNotes, hrun], hkind⟩

end Misconfigured

theorem ensureReadable_misconfigured
    (hother : CacheLocation.ofEnvironment processEnv ≠ .ok location) :
    Misconfigured (ensureReadable processEnv location : Action ω _ _) := by
  unfold ensureReadable
  cases hdefault : CacheLocation.ofEnvironment processEnv with
  | error fault =>
      rw [CacheLocation.locate_of_error hdefault]
      exact (Misconfigured.fail fault.toError_kind).bind _
  | ok default =>
      have hdiffers : location ≠ default := by
        intro hsame
        exact hother (hsame ▸ hdefault)
      rw [CacheLocation.locate_of_ok hdefault, bind_assoc]
      apply Misconfigured.note_bind
      rw [pure_bind, if_neg hdiffers]
      exact .fail (by rfl)

/-- Where the environments name no cache in common, a password is of no use. -/
theorem resolve_misconfigured (library : Mechanism ω μ η ξ γ) {env : CacheEnvironment}
    (hother : ∀ location, CacheLocation.ofEnvironment env = .ok location →
      CacheLocation.ofEnvironment processEnv ≠ .ok location) (request : IdentityRequest) :
    Misconfigured ((library.source processEnv).resolve env request) := by
  unfold CredentialSource.resolve
  cases hlocation : CacheLocation.ofEnvironment env with
  | error fault =>
      rw [CacheLocation.locate_of_error hlocation]
      exact (Misconfigured.fail fault.toError_kind).bind _
  | ok location =>
      -- The cache is not even looked into, and no password makes up for that.
      have hread : Misconfigured ((library.source processEnv).cached location) :=
        (ensureReadable_misconfigured (hother location hlocation)).bind _
      rw [CacheLocation.locate_of_ok hlocation, bind_assoc]
      apply Misconfigured.note_bind
      rw [pure_bind]
      apply (hread.mapNotes _).attempt_bind
      intro error hkind
      have hfinal : ¬ error.recoverable = true := by
        simp [AuthError.recoverable, hkind, ErrorKind.recoverable]
      exact if_neg hfinal

/-- How the mechanism is used for choosing credentials, given the result. -/
structure UsesOneCache (processEnv env : CacheEnvironment) (calls : List (Call μ η ξ))
    (result : Except AuthError (ResolvedCredentials η)) : Prop where
  acquire : ∀ set, .acquire set ∈ calls → ∃ location,
    CacheLocation.ofEnvironment processEnv = .ok location ∧
      CacheLocation.ofEnvironment env = .ok location
  store : ∀ handle cache, .storeInto handle cache ∈ calls → ∃ location,
    CacheLocation.ofEnvironment processEnv = .ok location ∧
      CacheLocation.ofEnvironment env = .ok location ∧ cache = location.name
  refused : (∀ location, CacheLocation.ofEnvironment env = .ok location →
      CacheLocation.ofEnvironment processEnv ≠ .ok location) →
    calls = [] ∧ ∃ error, result = .error error ∧ error.kind = .configuration

/-- Choosing credentials through the mechanism never reads one cache and writes another,
whatever the mechanism answers. Credentials are read, acquired and stored only if the
environments of the process and of the request name the same cache, and are stored into
that one. Otherwise the mechanism is not called at all, and the configuration is at fault. -/
theorem resolve_uses_one_cache (library : Mechanism ω μ η ξ γ)
    (processEnv env : CacheEnvironment) (request : IdentityRequest) (shared : ω) :
    let outcome := ((library.recorded.source processEnv).resolve env request).run ([], shared)
    outcome.unrecorded = ((library.source processEnv).resolve env request).run shared ∧
      UsesOneCache processEnv env outcome.state.1 outcome.result := by
  intro outcome
  refine ⟨CredentialSource.unrecorded_resolve source_unnoticed env request [] shared, ?_⟩
  by_cases hcommon : ∃ location, CacheLocation.ofEnvironment env = .ok location ∧
      CacheLocation.ofEnvironment processEnv = .ok location
  · obtain ⟨location, hlocation, hprocess⟩ := hcommon
    obtain ⟨calls, hcalls, hinto⟩ := library.resolve_storesInto processEnv hlocation request
      ([], shared)
    rw [List.nil_append] at hcalls
    constructor
    case acquire =>
      intro set _
      exact ⟨location, hprocess, hlocation⟩
    case store =>
      intro handle cache hstore
      have hcache := hinto (.storeInto handle cache) (hcalls ▸ hstore)
      exact ⟨location, hprocess, hlocation, hcache⟩
    case refused =>
      intro hother
      exact absurd hprocess (hother location hlocation)
  · have hother : ∀ location, CacheLocation.ofEnvironment env = .ok location →
        CacheLocation.ofEnvironment processEnv ≠ .ok location := by
      intro location hlocation hprocess
      exact hcommon ⟨location, hlocation, hprocess⟩
    -- The lemma holds of the recording mechanism too: nothing changed, so nothing was recorded.
    obtain ⟨error, notes, hrun, hkind⟩ :=
      library.recorded.resolve_misconfigured hother request ([], shared)
    have hcalls : outcome.state.1 = [] := congrArg (fun outcome => outcome.state.1) hrun
    have hresult : outcome.result = .error error := congrArg Outcome.result hrun
    rw [hcalls, hresult]
    constructor
    case acquire =>
      intro set hacquire
      exact absurd hacquire List.not_mem_nil
    case store =>
      intro handle cache hstore
      exact absurd hstore List.not_mem_nil
    case refused =>
      intro _
      exact ⟨rfl, error, rfl, hkind⟩

end Mechanism

end Gssapi

end KerberosLogin
