import KerberosLogin.Proofs.Recording
import KerberosLogin.Proofs.Resolver.Correspondence

/-! # The course of a resolution

Choosing credentials takes one of a few courses. A course is told by what reaches the
source, each call with its answer, by the warnings given, and by the result. The two ways
that lead to fresh credentials differ only in what warrants them.
-/

namespace KerberosLogin

variable {ω ν η : Type}

/-- What is seen of a source. -/
inductive SourceEvent (η : Type) where
  | cached (location : CacheLocation) (answer : Except AuthError (CachedCredential η))
  | acquire (principal : Principal) (password : Password) (answer : Except AuthError η)
  | store (handle : η) (location : CacheLocation) (answer : Except AuthError Unit)

def SourceEvent.call : SourceEvent η → SourceCall η
  | cached location _ => .cached location
  | acquire principal password _ => .acquire principal password
  | store handle location _ => .store handle location

/-- The record of a warning of the resolver itself; what the source notes is its own
affair. -/
def ResolverNote.warning? (entry : ResolverNote ν) : Option LogRecord :=
  ((entry.seen fun _ => (none : Option Empty)).map (ResolverNote.logRecord Empty.elim)).filter
    fun record => record.level = .warn

/-- The warning that an identity is used which differs from the one asked for. -/
def differingIdentity (cached requested : Principal) : LogRecord :=
  ⟨.warn, "cached identity differs from the requested one and no password was given; using cache",
    [("cached", .text cached.render), ("requested", .text requested.render)]⟩

namespace IdentityRequest

/-- Whether a principal is not the one asked for. One without a realm may be in any. -/
def Mismatches (request : IdentityRequest) (principal : Principal) : Prop :=
  (∃ user, request.username = some user ∧ user ≠ principal.user) ∨
    ∃ realm other, request.realm = some realm ∧ principal.realm = some other ∧ realm ≠ other

theorem userDiffers_iff {request : IdentityRequest} {principal : Principal} :
    request.userDiffers principal = true ↔
      ∃ user, request.username = some user ∧ user ≠ principal.user := by
  unfold userDiffers
  cases request.username <;> simp

theorem realmDiffers_iff {request : IdentityRequest} {principal : Principal} :
    request.realmDiffers principal = true ↔ ∃ realm other,
      request.realm = some realm ∧ principal.realm = some other ∧ realm ≠ other := by
  unfold realmDiffers
  cases request.realm <;> cases principal.realm <;> simp

theorem mismatches_iff {request : IdentityRequest} {principal : Principal} :
    request.Mismatches principal ↔
      request.userDiffers principal = true ∨ request.realmDiffers principal = true := by
  rw [userDiffers_iff, realmDiffers_iff]
  rfl

end IdentityRequest

theorem CachedCredential.expired_iff {found : CachedCredential η} :
    found.expired = true ↔ found.lifetime = ⟨0, 0⟩ := by
  obtain ⟨handle, principal, seconds, nanoseconds⟩ := found
  simp [expired, Lifetime.isZero]

theorem unsuitable_iff {request : IdentityRequest} {found : CachedCredential η} :
    (request.userDiffers found.principal || request.realmDiffers found.principal ||
      found.expired) = true ↔ request.Mismatches found.principal ∨ found.lifetime = ⟨0, 0⟩ := by
  rw [Bool.or_eq_true, Bool.or_eq_true, ← IdentityRequest.mismatches_iff,
    CachedCredential.expired_iff]

namespace CredentialSource

/-- The same source, with all that reaches it written down. -/
def recorded (source : CredentialSource ω ν η) :
    CredentialSource (List (SourceEvent η) × ω) ν η where
  cached location := (source.cached location).recorded (.cached location)
  acquireWithPassword principal password :=
    (source.acquireWithPassword principal password).recorded (.acquire principal password)
  store handle location := (source.store handle location).recorded (.store handle location)

/-- What a resolution leaves behind, and what reaches the source during it. -/
def course (source : CredentialSource ω ν η) (env : CacheEnvironment) (request : IdentityRequest)
    (shared : ω) : Outcome (List (SourceEvent η) × ω) (ResolverNote ν) (ResolvedCredentials η) :=
  (source.recorded.resolve env request).run ([], shared)

theorem recorded_related (source : CredentialSource ω ν η) :
    Related (fun recorded shared => recorded.2 = shared) Eq some some source.recorded source where
  cached _ := Action.recorded_related (fun _ => rfl) _ _
  acquire := by
    intro principal password password' hpassword
    subst hpassword
    exact Action.recorded_related (fun _ => rfl) (SourceEvent.acquire principal password) _
  store _ _ := Action.recorded_related (fun _ => rfl) _ _

/-- What a resolver does over a recording of a source is what it does over the source. -/
theorem ActRelated.unrecorded_eq {ε α : Type} {action : Action (List ε × ω) (ResolverNote ν) α}
    {action' : Action ω (ResolverNote ν) α}
    (haction : ActRelated (fun recorded shared => recorded.2 = shared) some some action action')
    (trace : List ε) (shared : ω) :
    (action.run (trace, shared)).unrecorded = action'.run shared := by
  have hall : ResolverNote.seen (some : ν → Option ν) = some := funext ResolverNote.seen_some
  rw [ActRelated, hall] at haction
  exact haction.unrecorded_eq trace shared

/-- Credentials are chosen alike through a source and through a recording of it. -/
theorem unrecorded_resolve {ε : Type} {source : CredentialSource ω ν η}
    {recording : CredentialSource (List ε × ω) ν η}
    (hrecording :
      Related (fun recorded shared => recorded.2 = shared) Eq some some recording source)
    (env : CacheEnvironment) (request : IdentityRequest) (trace : List ε) (shared : ω) :
    ((recording.resolve env request).run (trace, shared)).unrecorded =
      (source.resolve env request).run shared := by
  have hrequest : request.Related Eq request := by
    refine ⟨rfl, rfl, ?_⟩
    cases request.password with
    | none => exact .none
    | some password => exact .some rfl
  exact (resolve_related hrecording hrequest env).unrecorded_eq trace shared

/-- Recording changes nothing. -/
theorem unrecorded_course (source : CredentialSource ω ν η) (env : CacheEnvironment)
    (request : IdentityRequest) (shared : ω) :
    (source.course env request shared).unrecorded = (source.resolve env request).run shared :=
  unrecorded_resolve source.recorded_related env request [] shared

/-! ## Courses -/

/-- What the cache must have answered for credentials to be acquired, and for whom. Parts
of the cached identity count only if it could be read. -/
inductive Warrants (request : IdentityRequest) :
    Except AuthError (CachedCredential η) → Principal → Prop where
  | unreadable {error : AuthError} {user : String} (hrecoverable : error.recoverable = true)
      (huser : request.username = some user) :
      Warrants request (.error error) ⟨user, request.realm⟩
  | unsuitable {found : CachedCredential η}
      (hunsuitable : request.Mismatches found.principal ∨ found.lifetime = ⟨0, 0⟩) :
      Warrants request (.ok found) ⟨request.username.getD found.principal.user,
        request.realm.or found.principal.realm⟩

/-- What reaches the source while fresh credentials are acquired, and the result. -/
inductive Reacquisition (location : CacheLocation) (principal : Principal) (password : Password) :
    List (SourceEvent η) → Except AuthError (ResolvedCredentials η) → Prop where
  | refused (error : AuthError) :
      Reacquisition location principal password [.acquire principal password (.error error)]
        (.error error)
  | unstored (handle : η) (error : AuthError) :
      Reacquisition location principal password
        [.acquire principal password (.ok handle), .store handle location (.error error)]
        (.error error)
  | stored (handle : η) :
      Reacquisition location principal password
        [.acquire principal password (.ok handle), .store handle location (.ok ())]
        (.ok ⟨handle, principal, true⟩)

/-- What reaches the source, the warnings, and the result. -/
inductive Resolution (env : CacheEnvironment) (request : IdentityRequest) :
    List (SourceEvent η) → List LogRecord → Except AuthError (ResolvedCredentials η) → Prop where
  | unlocated {fault : CacheLocation.Fault}
      (hlocation : CacheLocation.ofEnvironment env = .error fault) :
      Resolution env request [] [] (.error fault.toError)
  | unreadable {location : CacheLocation} {error : AuthError}
      (hlocation : CacheLocation.ofEnvironment env = .ok location)
      (hfinal : error.recoverable = false) :
      Resolution env request [.cached location (.error error)] [] (.error error)
  | unrepaired {location : CacheLocation} {error : AuthError}
      (hlocation : CacheLocation.ofEnvironment env = .ok location)
      (hrecoverable : error.recoverable = true)
      (hmissing : request.username = none ∨ request.password = none) :
      Resolution env request [.cached location (.error error)] [] (.error error)
  | reacquired {location : CacheLocation} {answer : Except AuthError (CachedCredential η)}
      {principal : Principal} {password : Password} {events : List (SourceEvent η)}
      {result : Except AuthError (ResolvedCredentials η)}
      (hlocation : CacheLocation.ofEnvironment env = .ok location)
      (hpassword : request.password = some password)
      (hwarrants : Warrants request answer principal)
      (hreacquisition : Reacquisition location principal password events result) :
      Resolution env request (.cached location answer :: events) [] result
  | expired {location : CacheLocation} {found : CachedCredential η}
      (hlocation : CacheLocation.ofEnvironment env = .ok location)
      (hpassword : request.password = none) (hexpired : found.lifetime = ⟨0, 0⟩) :
      Resolution env request [.cached location (.ok found)] []
        (.error ⟨.credentialsExpired,
          "cached credentials for " ++ found.principal.render ++ " have expired"⟩)
  | differing {location : CacheLocation} {found : CachedCredential η}
      (hlocation : CacheLocation.ofEnvironment env = .ok location)
      (hpassword : request.password = none) (hlasting : found.lifetime ≠ ⟨0, 0⟩)
      (hmismatches : request.Mismatches found.principal) :
      Resolution env request [.cached location (.ok found)]
        [differingIdentity found.principal (request.principalOr found.principal)]
        (.ok found.resolved)
  | suitable {location : CacheLocation} {found : CachedCredential η}
      (hlocation : CacheLocation.ofEnvironment env = .ok location)
      (hlasting : found.lifetime ≠ ⟨0, 0⟩) (hmatches : ¬ request.Mismatches found.principal) :
      Resolution env request [.cached location (.ok found)] [] (.ok found.resolved)

variable {source : CredentialSource ω ν η} {env : CacheEnvironment} {request : IdentityRequest}
  {location : CacheLocation}

theorem reacquire_leaves (location : CacheLocation) (principal : Principal) (password : Password)
    (state : List (SourceEvent η) × ω) :
    (source.recorded.reacquire location principal password).Leaves ResolverNote.warning? state
      fun events warnings result =>
        Reacquisition location principal password events result ∧ warnings = [] := by
  unfold reacquire
  apply Action.Leaves.note_bind
  have hacquire : ((source.recorded.acquireWithPassword principal password).mapNotes
      ResolverNote.source).Leaves ResolverNote.warning? state fun events warnings answer =>
        events = [.acquire principal password answer] ∧ warnings = [] :=
    .recorded (fun _ => rfl) fun _ => ⟨rfl, rfl⟩
  refine hacquire.bind ?_ ?_
  · rintro _ _ error ⟨rfl, rfl⟩
    exact ⟨.refused error, rfl⟩
  · rintro _ _ handle reached ⟨rfl, rfl⟩
    have hstore : ((source.recorded.store handle location).mapNotes
        ResolverNote.source).Leaves ResolverNote.warning? reached fun events warnings answer =>
          events = [.store handle location answer] ∧ warnings = [] :=
      .recorded (fun _ => rfl) fun _ => ⟨rfl, rfl⟩
    refine hstore.bind ?_ ?_
    · rintro _ _ error ⟨rfl, rfl⟩
      exact ⟨.unstored handle error, rfl⟩
    · rintro _ _ _ _ ⟨rfl, rfl⟩
      apply Action.Leaves.note_bind
      exact Action.Leaves.pure ⟨.stored handle, rfl⟩

/-- Both ways to fresh credentials end here. -/
theorem warranted_leaves (hlocation : CacheLocation.ofEnvironment env = .ok location)
    {answer : Except AuthError (CachedCredential η)} {principal : Principal} {password : Password}
    (hpassword : request.password = some password) (hwarrants : Warrants request answer principal)
    (state : List (SourceEvent η) × ω) :
    (source.recorded.reacquire location principal password).Leaves ResolverNote.warning? state
      fun events warnings result =>
        Resolution env request (.cached location answer :: events) warnings result := by
  obtain ⟨events, htrace, hreacquisition, hwarnings⟩ :=
    source.reacquire_leaves location principal password state
  refine ⟨events, htrace, ?_⟩
  rw [hwarnings]
  exact .reacquired hlocation hpassword hwarrants hreacquisition

theorem resolveUnreadable_leaves (hlocation : CacheLocation.ofEnvironment env = .ok location)
    (error : AuthError) (state : List (SourceEvent η) × ω) :
    (source.recorded.resolveUnreadable location request error).Leaves ResolverNote.warning? state
      fun events warnings result =>
        Resolution env request (.cached location (.error error) :: events) warnings result := by
  unfold resolveUnreadable
  split
  next hrecoverable =>
    apply Action.Leaves.note_bind
    split
    next user password huser hpassword =>
      exact warranted_leaves hlocation hpassword (.unreadable hrecoverable huser) state
    next hmissing =>
      apply Action.Leaves.fail
      refine .unrepaired hlocation hrecoverable ?_
      rcases huser : request.username with _ | user
      · exact .inl rfl
      · rcases hpassword : request.password with _ | password
        · exact .inr rfl
        · exact absurd hpassword (hmissing user password huser)
  next hfinal =>
    apply Action.Leaves.fail
    exact .unreadable hlocation (Bool.eq_false_iff.mpr hfinal)

theorem resolveFound_leaves (hlocation : CacheLocation.ofEnvironment env = .ok location)
    (found : CachedCredential η) (state : List (SourceEvent η) × ω) :
    (source.recorded.resolveFound location request found).Leaves ResolverNote.warning? state
      fun events warnings result =>
        Resolution env request (.cached location (.ok found) :: events) warnings result := by
  unfold resolveFound
  dsimp only
  split
  next hdiffers =>
    have hunsuitable := unsuitable_iff.mp hdiffers
    cases hpassword : request.password with
    | some password =>
        apply Action.Leaves.note_bind
        exact warranted_leaves hlocation hpassword (.unsuitable hunsuitable) state
    | none =>
        dsimp only
        split
        next hexpired =>
          apply Action.Leaves.fail
          exact .expired hlocation hpassword (CachedCredential.expired_iff.mp hexpired)
        next hvalid =>
          have hlasting := mt CachedCredential.expired_iff.mpr hvalid
          apply Action.Leaves.note_bind
          apply Action.Leaves.pure
          exact .differing hlocation hpassword hlasting (hunsuitable.resolve_right hlasting)
  next hsame =>
    obtain ⟨hmatches, hlasting⟩ := not_or.mp (mt unsuitable_iff.mpr hsame)
    apply Action.Leaves.pure
    exact .suitable hlocation hlasting hmatches

/-- Every resolution takes one of the courses. -/
theorem resolution (source : CredentialSource ω ν η) (env : CacheEnvironment)
    (request : IdentityRequest) (shared : ω) :
    Resolution env request (source.course env request shared).state.1
      ((source.course env request shared).notes.filterMap ResolverNote.warning?)
      (source.course env request shared).result := by
  have hleaves : (source.recorded.resolve env request).Leaves ResolverNote.warning?
      ([], shared) (Resolution env request) := by
    unfold resolve CacheLocation.locate
    cases hlocation : CacheLocation.ofEnvironment env with
    | error fault =>
        rw [Except.mapError, Action.ofExcept_error_bind]
        exact ⟨[], rfl, .unlocated hlocation⟩
    | ok location =>
        rw [Except.mapError, Action.ofExcept_ok_bind, bind_assoc]
        apply Action.Leaves.note_bind
        rw [pure_bind]
        have hread : ((source.recorded.cached location).mapNotes
            ResolverNote.source).attempt.Leaves ResolverNote.warning? ([], shared)
            fun events warnings read => ∃ answer, read = .ok answer ∧
              events = [.cached location answer] ∧ warnings = [] :=
          .attempt (.recorded (fun _ => rfl) fun answer => ⟨answer, rfl, rfl, rfl⟩)
        refine hread.bind ?_ ?_
        · rintro _ _ _ ⟨_, hanswer, _⟩
          cases hanswer
        · rintro _ _ read reached ⟨answer, hanswer, rfl, rfl⟩
          cases hanswer
          cases read with
          | error error => exact resolveUnreadable_leaves hlocation error reached
          | ok found =>
              apply Action.Leaves.note_bind
              exact resolveFound_leaves hlocation found reached
  obtain ⟨events, htrace, hresolution⟩ := hleaves
  unfold course
  rw [htrace]
  exact hresolution

end CredentialSource

end KerberosLogin
