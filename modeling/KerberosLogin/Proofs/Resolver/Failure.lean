import KerberosLogin.Proofs.CacheLocation
import KerberosLogin.Proofs.Resolver.Verdict

/-! # Why a resolution fails

A resolution fails for the place of the cache, for what the cache answers, or because
credentials cannot be acquired or stored. It hands on the very error that it met, and what
fails is not tried again: in particular the cached credentials never stand in for fresh ones
that could not be had.
-/

namespace KerberosLogin

variable {ω ν η : Type}

namespace CredentialSource

/-- The errors that a resolution ends in. -/
inductive Failure (source : CredentialSource ω ν η) (env : CacheEnvironment)
    (request : IdentityRequest) (shared : ω) : AuthError → Prop where
  | unlocated {error : AuthError} (hlocation : CacheLocation.Unlocated env error) :
      Failure source env request shared error
  | dismissed {location : CacheLocation} {answer : Except AuthError (CachedCredential η)}
      {error : AuthError} {read : ω} (hlocation : CacheLocation.ofEnvironment env = .ok location)
      (hread : (source.cached location).Ends shared answer read)
      (hdismisses : Dismisses request answer error) : Failure source env request shared error
  | refused {location : CacheLocation} {answer : Except AuthError (CachedCredential η)}
      {principal : Principal} {password : Password} {error : AuthError} {read last : ω}
      (hlocation : CacheLocation.ofEnvironment env = .ok location)
      (hread : (source.cached location).Ends shared answer read)
      (hpassword : request.password = some password) (hwarrants : Warrants request answer principal)
      (hacquire : (source.acquireWithPassword principal password).Ends read (.error error) last) :
      Failure source env request shared error
  | unstored {location : CacheLocation} {answer : Except AuthError (CachedCredential η)}
      {principal : Principal} {password : Password} {handle : η} {error : AuthError}
      {read acquired last : ω} (hlocation : CacheLocation.ofEnvironment env = .ok location)
      (hread : (source.cached location).Ends shared answer read)
      (hpassword : request.password = some password) (hwarrants : Warrants request answer principal)
      (hacquire : (source.acquireWithPassword principal password).Ends read (.ok handle) acquired)
      (hstore : (source.store handle location).Ends acquired (.error error) last) :
      Failure source env request shared error

/-- Whether a failed acquisition or a failed attempt to store is the last call and gives the
result. -/
structure Final (events : List (SourceEvent η))
    (result : Except AuthError (ResolvedCredentials η)) : Prop where
  acquire : ∀ principal password error, .acquire principal password (.error error) ∈ events →
    result = .error error ∧ ∃ location answer,
      events = [.cached location answer, .acquire principal password (.error error)]
  store : ∀ handle location error, .store handle location (.error error) ∈ events →
    result = .error error ∧ ∃ answer principal password,
      events = [.cached location answer, .acquire principal password (.ok handle),
        .store handle location (.error error)]

variable {source : CredentialSource ω ν η} {env : CacheEnvironment} {request : IdentityRequest}
  {location : CacheLocation} {principal : Principal} {password : Password} {error : AuthError}
  {handle : η} {shared read acquired last : ω}

theorem reacquire_ends_of_refused (location : CacheLocation)
    (hacquire : (source.acquireWithPassword principal password).Ends read (.error error) last) :
    (source.reacquire location principal password).Ends read (.error error) last := by
  unfold reacquire
  apply Action.Ends.note_bind
  exact (hacquire.mapNotes _).bind_error _

theorem reacquire_ends_of_unstored
    (hacquire : (source.acquireWithPassword principal password).Ends read (.ok handle) acquired)
    (hstore : (source.store handle location).Ends acquired (.error error) last) :
    (source.reacquire location principal password).Ends read (.error error) last := by
  unfold reacquire
  apply Action.Ends.note_bind
  refine (hacquire.mapNotes _).bind ?_
  exact (hstore.mapNotes _).bind_error _

theorem reacquire_ends_of_stored
    (hacquire : (source.acquireWithPassword principal password).Ends read (.ok handle) acquired)
    (hstore : (source.store handle location).Ends acquired (.ok ()) last) :
    (source.reacquire location principal password).Ends read (.ok ⟨handle, principal, true⟩)
      last := by
  unfold reacquire
  apply Action.Ends.note_bind
  refine (hacquire.mapNotes _).bind ?_
  refine (hstore.mapNotes _).bind ?_
  exact Action.Ends.note_bind (Action.Ends.pure _ _)

theorem Failure.result_eq (hfailure : source.Failure env request shared error) :
    ((source.resolve env request).run shared).result = .error error := by
  cases hfailure with
  | unlocated hlocation =>
      obtain ⟨fault, hfault, rfl⟩ := CacheLocation.derived_eq_error_iff.mp
        (CacheLocation.derived_eq_error_iff_unlocated.mpr hlocation)
      exact (resolve_ends_of_fault hfault).result_eq
  | dismissed hlocation hread hdismisses =>
      exact (resolve_ends_of_resume hlocation hread (hdismisses.resume_ends _)).result_eq
  | refused hlocation hread hpassword hwarrants hacquire =>
      exact (resolve_ends_of_resume hlocation hread
        (hwarrants.resume_ends hpassword (reacquire_ends_of_refused _ hacquire))).result_eq
  | unstored hlocation hread hpassword hwarrants hacquire hstore =>
      exact (resolve_ends_of_resume hlocation hread
        (hwarrants.resume_ends hpassword (reacquire_ends_of_unstored hacquire hstore))).result_eq

/-- A resolution that warrants fresh credentials fails only for the source. -/
theorem failure_of_warrants (hlocation : CacheLocation.ofEnvironment env = .ok location)
    {answer : Except AuthError (CachedCredential η)}
    (hread : (source.cached location).Ends shared answer read)
    (hpassword : request.password = some password) (hwarrants : Warrants request answer principal)
    (hresult : ((source.resolve env request).run shared).result = .error error) :
    source.Failure env request shared error := by
  -- Of the three courses of a reacquisition, the one that is taken ends in the error.
  have hends : ∀ result last, (source.reacquire location principal password).Ends read result last →
      result = .error error := fun _ _ hreacquire =>
    (resolve_ends_of_resume hlocation hread
      (hwarrants.resume_ends hpassword hreacquire)).result_eq.symm.trans hresult
  have hacquire := (source.acquireWithPassword principal password).ends_run read
  generalize ((source.acquireWithPassword principal password).run read).state = acquired at hacquire
  rcases hanswer : ((source.acquireWithPassword principal password).run read).result with
    error' | handle
  · rw [hanswer] at hacquire
    cases hends _ _ (reacquire_ends_of_refused _ hacquire)
    exact .refused hlocation hread hpassword hwarrants hacquire
  · rw [hanswer] at hacquire
    have hstore := (source.store handle location).ends_run acquired
    rcases hanswer' : ((source.store handle location).run acquired).result with error' | _
    · rw [hanswer'] at hstore
      cases hends _ _ (reacquire_ends_of_unstored hacquire hstore)
      exact .unstored hlocation hread hpassword hwarrants hacquire hstore
    · rw [hanswer'] at hstore
      cases hends _ _ (reacquire_ends_of_stored hacquire hstore)

theorem failure_of_result
    (hresult : ((source.resolve env request).run shared).result = .error error) :
    source.Failure env request shared error := by
  cases hlocation : CacheLocation.ofEnvironment env with
  | error fault =>
      cases (resolve_ends_of_fault hlocation).result_eq.symm.trans hresult
      exact .unlocated (CacheLocation.unlocated_of_fault hlocation)
  | ok location =>
      have hread := (source.cached location).ends_run shared
      rcases dismissed_or_warranted_or_suits request
          ((source.cached location).run shared).result with
        ⟨error', hdismisses⟩ | ⟨principal, password, hpassword, hwarrants⟩ |
          ⟨found, hanswer, hsuits⟩
      · have hends := resolve_ends_of_resume hlocation hread (hdismisses.resume_ends _)
        cases hends.result_eq.symm.trans hresult
        exact .dismissed hlocation hread hdismisses
      · exact failure_of_warrants hlocation hread hpassword hwarrants hresult
      · rw [hanswer] at hread
        have hends := resolve_ends_of_resume hlocation hread (hsuits.resume_ends _)
        cases hends.result_eq.symm.trans hresult

theorem Reacquisition.final {events : List (SourceEvent η)}
    {result : Except AuthError (ResolvedCredentials η)}
    (hreacquisition : Reacquisition location principal password events result)
    (answer : Except AuthError (CachedCredential η)) :
    Final (.cached location answer :: events) result := by
  cases hreacquisition with
  | refused error =>
      constructor
      case acquire =>
        intro principal' password' error' hmem
        simp only [List.mem_cons, SourceEvent.acquire.injEq, Except.error.injEq, reduceCtorEq,
          List.not_mem_nil, or_false, false_or] at hmem
        obtain ⟨rfl, rfl, rfl⟩ := hmem
        exact ⟨rfl, location, answer, rfl⟩
      case store => simp
  | unstored handle error =>
      constructor
      case acquire => simp
      case store =>
        intro handle' location' error' hmem
        simp only [List.mem_cons, SourceEvent.store.injEq, Except.error.injEq, reduceCtorEq,
          List.not_mem_nil, or_false, false_or] at hmem
        obtain ⟨rfl, rfl, rfl⟩ := hmem
        exact ⟨rfl, answer, principal, password, rfl⟩
  | stored handle => constructor <;> simp

theorem Resolution.final {events : List (SourceEvent η)} {warnings : List LogRecord}
    {result : Except AuthError (ResolvedCredentials η)}
    (hresolution : Resolution env request events warnings result) : Final events result := by
  cases hresolution with
  | reacquired _ _ _ hreacquisition => exact hreacquisition.final _
  | unlocated | unreadable | unrepaired | expired | differing | suitable => constructor <;> simp

/-- A resolution fails if and only if it meets an error that nothing can repair, and then
with that error. A place that cannot be derived is one, and so is a failure to acquire or to
store, whatever the cache holds: that is the last that reaches the source. -/
theorem resolve_fails_iff (source : CredentialSource ω ν η) (env : CacheEnvironment)
    (request : IdentityRequest) (shared : ω) :
    (∀ error, ((source.resolve env request).run shared).result = .error error ↔
      source.Failure env request shared error) ∧
    (∀ error, CacheLocation.derived env = .error error ↔ CacheLocation.Unlocated env error) ∧
    (source.course env request shared).unrecorded = (source.resolve env request).run shared ∧
    Final (source.course env request shared).state.1 (source.course env request shared).result :=
  ⟨fun _ => ⟨failure_of_result, Failure.result_eq⟩,
    fun _ => CacheLocation.derived_eq_error_iff_unlocated,
    source.unrecorded_course env request shared, (source.resolution env request shared).final⟩

end CredentialSource

end KerberosLogin
