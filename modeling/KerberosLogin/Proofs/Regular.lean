import KerberosLogin.Proofs.Resolver.Correspondence

/-! # Regular failures

Some errors tell that a component was used in a way that it does not support, or out of
order. All others are regular: the server, the credentials, the configuration or a library
can always bring them about. An action behaves if it fails regularly or not at all.
-/

namespace KerberosLogin

variable {σ ω ν μ δ α β η : Type}

/-- Whether an error may come up however carefully the components are used. -/
structure AuthError.Regular (error : AuthError) : Prop where
  supported : error.kind ≠ .unsupportedMethod
  ordered : error.kind ≠ .protocolMisuse

theorem AuthError.Regular.of_kind {error : AuthError} (kind : ErrorKind)
    (herror : error.kind = kind)
    (hkind : kind ≠ .unsupportedMethod ∧ kind ≠ .protocolMisuse := by decide) :
    error.Regular := by
  subst herror
  exact ⟨hkind.1, hkind.2⟩

namespace Action

/-- Whether an action from a state fails regularly, or else ends as `finish` says. -/
def Behaves (action : Action σ ν α) (state : σ) (finish : α → σ → Prop) : Prop :=
  match (action.run state).result with
  | .error error => error.Regular
  | .ok value => finish value (action.run state).state

namespace Behaves

variable {state : σ}

theorem regular {action : Action σ ν α} {finish : α → σ → Prop}
    (haction : action.Behaves state finish) {error : AuthError}
    (hresult : (action.run state).result = .error error) : error.Regular := by
  rw [Behaves, hresult] at haction
  exact haction

theorem finished {action : Action σ ν α} {finish : α → σ → Prop}
    (haction : action.Behaves state finish) {value : α}
    (hresult : (action.run state).result = .ok value) :
    finish value (action.run state).state := by
  rw [Behaves, hresult] at haction
  exact haction

theorem pure {value : α} {finish : α → σ → Prop} (hfinish : finish value state) :
    (Pure.pure value : Action σ ν α).Behaves state finish :=
  hfinish

theorem fail {error : AuthError} {finish : α → σ → Prop} (herror : error.Regular) :
    (Action.fail error : Action σ ν α).Behaves state finish :=
  herror

theorem bind {action : Action σ ν α} {next : α → Action σ ν β} {middle : α → σ → Prop}
    {finish : β → σ → Prop} (haction : action.Behaves state middle)
    (hnext : ∀ value reached, middle value reached → (next value).Behaves reached finish) :
    (action >>= next).Behaves state finish := by
  unfold Behaves at haction
  unfold Behaves
  rw [run_bind]
  rcases hrun : action.run state with ⟨error | value, reached, notes⟩
  · rw [hrun] at haction
    exact haction
  · rw [hrun] at haction
    exact hnext value reached haction

theorem weaken {action : Action σ ν α} {middle finish : α → σ → Prop}
    (haction : action.Behaves state middle)
    (hweaker : ∀ value reached, middle value reached → finish value reached) :
    action.Behaves state finish := by
  unfold Behaves at haction ⊢
  split
  next hresult =>
    rw [hresult] at haction
    exact haction
  next hresult =>
    rw [hresult] at haction
    exact hweaker _ _ haction

theorem map {action : Action σ ν α} {convert : α → β} {finish : β → σ → Prop}
    (haction : action.Behaves state fun value reached => finish (convert value) reached) :
    (convert <$> action).Behaves state finish := by
  rw [map_eq_pure_bind]
  exact haction.bind fun _ _ hfinish => pure hfinish

theorem get_bind {next : σ → Action σ ν α} {finish : α → σ → Prop}
    (hnext : (next state).Behaves state finish) : (Action.get >>= next).Behaves state finish :=
  hnext

theorem modify_bind {change : σ → σ} {next : Unit → Action σ ν α} {finish : α → σ → Prop}
    (hnext : (next ()).Behaves (change state) finish) :
    (Action.modify change >>= next).Behaves state finish :=
  hnext

theorem note_bind {entry : ν} {next : Unit → Action σ ν α} {finish : α → σ → Prop}
    (hnext : (next ()).Behaves state finish) :
    (Action.note entry >>= next).Behaves state finish :=
  hnext

theorem mapNotes {action : Action σ ν α} (reword : ν → μ) {finish : α → σ → Prop}
    (haction : action.Behaves state finish) : (action.mapNotes reword).Behaves state finish :=
  haction

theorem onSecond {action : Action ω ν α} {shared : ω} {finish : α → ω → Prop}
    (haction : action.Behaves shared finish) (own : σ) :
    action.onSecond.Behaves (own, shared) fun value reached =>
      reached.1 = own ∧ finish value reached.2 := by
  unfold Behaves at haction ⊢
  rw [run_onSecond]
  rcases hrun : action.run shared with ⟨error | value, reached, notes⟩
  · rw [hrun] at haction
    exact haction
  · rw [hrun] at haction
    exact ⟨rfl, haction⟩

theorem withOwn {action : Action (σ × ω) ν α} {own : σ} {shared : ω} {finish : α × σ → ω → Prop}
    (haction : action.Behaves (own, shared) fun value reached =>
      finish (value, reached.1) reached.2) :
    (action.withOwn own).Behaves shared finish := by
  unfold Behaves at haction ⊢
  rw [run_withOwn]
  rcases hrun : action.run (own, shared) with ⟨error | value, reached, notes⟩
  · rw [hrun] at haction
    exact haction
  · rw [hrun] at haction
    exact haction

/-- A failed attempt is a success, but what has failed must have failed regularly. -/
theorem attempt {action : Action σ ν α} {middle : α → σ → Prop}
    (haction : action.Behaves state middle) :
    action.attempt.Behaves state fun answer _ =>
      ∀ error, answer = .error error → error.Regular := by
  intro error hresult
  exact haction.regular hresult

theorem ofCall {explain : δ → AuthError} (hexplain : ∀ fault, (explain fault).Regular)
    (call : LibraryCall σ δ α) (state : σ) :
    (Action.ofCall explain call : Action σ ν α).Behaves state fun _ _ => True := by
  unfold Behaves Action.ofCall
  dsimp only
  rcases hcall : call state with ⟨fault | value, reached⟩
  · exact hexplain fault
  · trivial

end Behaves

end Action

/-! ## Choosing credentials -/

theorem CacheLocation.Fault.toError_regular (fault : Fault) : fault.toError.Regular :=
  .of_kind .configuration fault.toError_kind

theorem CacheLocation.locate_behaves (entry : CacheLocation → ν) (env : CacheEnvironment)
    (state : σ) : (locate entry env : Action σ ν _).Behaves state fun _ _ => True := by
  cases hlocation : ofEnvironment env with
  | error fault =>
      rw [locate_of_error hlocation]
      exact .fail fault.toError_regular
  | ok location =>
      rw [locate_of_ok hlocation]
      exact .note_bind (.pure trivial)

namespace CredentialSource

/-- A source that fails regularly. -/
structure Regular (source : CredentialSource ω ν η) : Prop where
  cached : ∀ location shared, (source.cached location).Behaves shared fun _ _ => True
  acquire : ∀ principal password shared,
    (source.acquireWithPassword principal password).Behaves shared fun _ _ => True
  store : ∀ handle location shared, (source.store handle location).Behaves shared fun _ _ => True

namespace Regular

variable {source : CredentialSource ω ν η} (hsource : source.Regular)
include hsource

theorem reacquire (location : CacheLocation) (principal : Principal) (password : Password)
    (shared : ω) :
    (source.reacquire location principal password).Behaves shared fun _ _ => True := by
  unfold CredentialSource.reacquire
  apply Action.Behaves.note_bind
  apply ((hsource.acquire principal password shared).mapNotes _).bind
  intro handle acquired _
  apply ((hsource.store handle location acquired).mapNotes _).bind
  intro _ kept _
  exact .note_bind (.pure trivial)

theorem resolveUnreadable (location : CacheLocation) (request : IdentityRequest)
    {error : AuthError} (herror : error.Regular) (shared : ω) :
    (source.resolveUnreadable location request error).Behaves shared fun _ _ => True := by
  unfold CredentialSource.resolveUnreadable
  split
  next =>
    apply Action.Behaves.note_bind
    split
    next => exact hsource.reacquire _ _ _ shared
    next => exact .fail herror
  next => exact .fail herror

theorem resolveFound (location : CacheLocation) (request : IdentityRequest)
    (found : CachedCredential η) (shared : ω) :
    (source.resolveFound location request found).Behaves shared fun _ _ => True := by
  unfold CredentialSource.resolveFound
  dsimp only
  split
  next =>
    split
    next => exact .note_bind (hsource.reacquire _ _ _ shared)
    next =>
      split
      next => exact .fail (.of_kind .credentialsExpired rfl)
      next => exact .note_bind (.pure trivial)
  next => exact .pure trivial

/-- Credentials are chosen with regular failures only. -/
theorem resolve (env : CacheEnvironment) (request : IdentityRequest) (shared : ω) :
    (source.resolve env request).Behaves shared fun _ _ => True := by
  unfold CredentialSource.resolve
  apply (CacheLocation.locate_behaves _ env shared).bind
  intro location located _
  apply ((hsource.cached location located).mapNotes _).attempt.bind
  intro answer read hanswer
  cases answer with
  | error error => exact hsource.resolveUnreadable location request (hanswer error rfl) read
  | ok found => exact .note_bind (hsource.resolveFound location request found read)

end Regular

end CredentialSource

end KerberosLogin
