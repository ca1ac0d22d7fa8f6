import KerberosLogin.Proofs.Resolver.Repetition

/-! # Caches that cannot be used

To a request that names a user and a realm and brings a password, it is all one why the
cache is of no use: whether there is none, or its tickets have run out, or it holds another
identity. Fresh credentials are acquired and stored as if it had not been there.
-/

namespace KerberosLogin

variable {ω ω' ν ν' δ η : Type}

namespace CredentialSource

/-- Answers of a cache that are of no use to a user in a realm. -/
inductive Unusable (user realm : String) : Except AuthError (CachedCredential η) → Prop where
  | unavailable {error : AuthError} (hkind : error.kind = .credentialsUnavailable) :
      Unusable user realm (.error error)
  | expired {error : AuthError} (hkind : error.kind = .credentialsExpired) :
      Unusable user realm (.error error)
  | outlived {found : CachedCredential η} (hlifetime : found.lifetime = ⟨0, 0⟩) :
      Unusable user realm (.ok found)
  | otherUser {found : CachedCredential η} (huser : found.principal.user ≠ user) :
      Unusable user realm (.ok found)
  | otherRealm {found : CachedCredential η} {other : String}
      (hrealm : found.principal.realm = some other) (hother : other ≠ realm) :
      Unusable user realm (.ok found)

/-- What is of no use warrants fresh credentials, always for the principal asked for. -/
theorem Unusable.warrants {user realm : String} {answer : Except AuthError (CachedCredential η)}
    (hunusable : Unusable user realm answer) (password : Option Password) :
    Warrants ⟨some user, some realm, password⟩ answer ⟨user, some realm⟩ := by
  cases hunusable with
  | unavailable hkind => exact .unreadable (AuthError.recoverable_iff.mpr (.inl hkind)) rfl
  | expired hkind => exact .unreadable (AuthError.recoverable_iff.mpr (.inr hkind)) rfl
  | outlived hlifetime => exact .unsuitable (.inr hlifetime)
  | otherUser huser => exact .unsuitable (.inl (.inl ⟨user, rfl, huser.symm⟩))
  | otherRealm hrealm hother =>
      exact .unsuitable (.inl (.inr ⟨realm, _, rfl, hrealm, hother.symm⟩))

variable {W : ω → ω' → Prop} {see : ν → Option δ} {see' : ν' → Option δ}
  {source : CredentialSource ω ν η} {source' : CredentialSource ω' ν' η}
  {env : CacheEnvironment} {location : CacheLocation}

theorem AcquiresAlike.recorded (hsources : AcquiresAlike W Eq see see' source source')
    (before before' : List (SourceEvent η)) :
    AcquiresAlike (Outcome.PairRelated (Action.ContinuedAlike before before') W) Eq see see'
      source.recorded source'.recorded where
  acquire := by
    intro principal password password' hpassword
    subst hpassword
    exact (hsources.acquire principal password password rfl).recorded _ before before'
  store handle location := (hsources.store handle location).recorded _ before before'

/-- Once the cache turns out to be of no use, a resolution is nothing but a reacquisition. -/
theorem Unusable.course_eq {user realm : String} {answer : Except AuthError (CachedCredential η)}
    (hunusable : Unusable user realm answer)
    (hlocation : CacheLocation.ofEnvironment env = .ok location) {shared read : ω}
    (hread : (source.cached location).Ends shared answer read) (password : Password) :
    let reacquired := (source.recorded.reacquire location ⟨user, some realm⟩ password).run
      ([.cached location answer], read)
    let course := source.course env ⟨some user, some realm, some password⟩ shared
    course.result = reacquired.result ∧ course.state = reacquired.state := by
  intro reacquired course
  have hreacquire := (source.recorded.reacquire location ⟨user, some realm⟩ password).ends_run
    ([.cached location answer], read)
  have hresume := (hunusable.warrants (some password)).resume_ends rfl hreacquire
  have hresolve := resolve_ends_of_resume hlocation (hread.recorded _ []) hresume
  exact ⟨hresolve.result_eq, hresolve.state_eq⟩

/-- Sources that acquire and store alike serve a full request alike, whatever makes their
caches unusable: with the same calls, answered the same, and with the same result. -/
theorem resolve_alike_of_unusable (hsources : AcquiresAlike W Eq see see' source source')
    (hlocation : CacheLocation.ofEnvironment env = .ok location) (user realm : String)
    (password : Password) {shared read : ω} {shared' read' : ω'}
    {answer answer' : Except AuthError (CachedCredential η)}
    (hread : (source.cached location).Ends shared answer read)
    (hread' : (source'.cached location).Ends shared' answer' read') (hstates : W read read')
    (hunusable : Unusable user realm answer) (hunusable' : Unusable user realm answer') :
    let request : IdentityRequest := ⟨some user, some realm, some password⟩
    let course := source.course env request shared
    let course' := source'.course env request shared'
    course.unrecorded = (source.resolve env request).run shared ∧
      course'.unrecorded = (source'.resolve env request).run shared' ∧
      course.result = course'.result ∧
      ∃ later, course.state.1 = .cached location answer :: later ∧
        course'.state.1 = .cached location answer' :: later ∧
        Reacquisition location ⟨user, some realm⟩ password later course.result := by
  intro request course course'
  refine ⟨source.unrecorded_course _ _ _, source'.unrecorded_course _ _ _, ?_⟩
  obtain ⟨hresult, hstate⟩ := hunusable.course_eq hlocation hread password
  obtain ⟨hresult', hstate'⟩ := hunusable'.course_eq hlocation hread' password
  -- The records begin with different answers, and both are continued by the same calls.
  have halike := reacquire_related (hsources.recorded [.cached location answer]
    [.cached location answer']) location ⟨user, some realm⟩ (rfl : password = password)
    ([.cached location answer], read) ([.cached location answer'], read')
    ⟨⟨[], rfl, rfl⟩, hstates⟩
  obtain ⟨later, htrace, hreacquisition, -⟩ := source.reacquire_leaves location
    ⟨user, some realm⟩ password ([.cached location answer], read)
  obtain ⟨⟨later', hlater, hlater'⟩, -⟩ := halike.state
  obtain rfl := List.append_cancel_left (htrace.symm.trans hlater)
  refine ⟨?_, later, ?_, ?_, ?_⟩
  · exact hresult.trans ((Outcome.eq_of_resultsRelated halike.result).trans hresult'.symm)
  · exact (congrArg Prod.fst hstate).trans htrace
  · exact (congrArg Prod.fst hstate').trans hlater'
  · rw [hresult]
    exact hreacquisition

theorem ofIdentities_acquiresAlike : AcquiresAlike (fun _ _ => True) Eq
    (some : Empty → Option Empty) some ofIdentities ofIdentities where
  acquire _ _ _ _ := Action.Related.pure rfl
  store _ _ := Action.Related.modify fun _ _ _ => trivial

/-- An empty cache is of as little use to Alice as one that holds Bob's tickets. -/
theorem empty_and_foreign_cache_alike :
    let env : CacheEnvironment := ⟨some "c", none, []⟩
    let request : IdentityRequest := ⟨some "alice", some "A", some ⟨"secret"⟩⟩
    let foreign : List (String × String) := [("FILE:c", "bob@A")]
    let missing : Except AuthError (CachedCredential String) :=
      .error ⟨.credentialsUnavailable, "no ccache at FILE:c"⟩
    let found : Except AuthError (CachedCredential String) :=
      .ok ⟨"bob@A", ⟨"bob", some "A"⟩, ⟨1, 0⟩⟩
    let course := ofIdentities.course env request []
    let course' := ofIdentities.course env request foreign
    AcquiresAlike (fun _ _ => True) Eq (some : Empty → Option Empty) some ofIdentities
        ofIdentities ∧
      CacheLocation.ofEnvironment env = .ok ⟨"c"⟩ ∧
      (ofIdentities.cached ⟨"c"⟩).Ends [] missing [] ∧
      (ofIdentities.cached ⟨"c"⟩).Ends foreign found foreign ∧
      Unusable "alice" "A" missing ∧ Unusable "alice" "A" found ∧
      course.unrecorded = (ofIdentities.resolve env request).run [] ∧
      course'.unrecorded = (ofIdentities.resolve env request).run foreign ∧
      course.result = course'.result ∧
      ∃ later, course.state.1 = .cached ⟨"c"⟩ missing :: later ∧
        course'.state.1 = .cached ⟨"c"⟩ found :: later ∧
        Reacquisition ⟨"c"⟩ ⟨"alice", some "A"⟩ ⟨"secret"⟩ later course.result := by
  intro env request foreign missing found course course'
  have hlocation : CacheLocation.ofEnvironment env = .ok ⟨"c"⟩ := by rfl
  have hread : (ofIdentities.cached ⟨"c"⟩).Ends [] missing [] := ⟨[], by rfl⟩
  have hread' : (ofIdentities.cached ⟨"c"⟩).Ends foreign found foreign := ⟨[], by rfl⟩
  have hmissing : Unusable "alice" "A" missing := .unavailable rfl
  have hfound : Unusable "alice" "A" found := .otherUser (by decide)
  exact ⟨ofIdentities_acquiresAlike, hlocation, hread, hread', hmissing, hfound,
    resolve_alike_of_unusable ofIdentities_acquiresAlike hlocation _ _ _ hread hread' trivial
      hmissing hfound⟩

end CredentialSource

end KerberosLogin
