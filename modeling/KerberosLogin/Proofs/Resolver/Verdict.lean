import KerberosLogin.Proofs.Resolver.Course

/-! # What the answer of the cache leads to

For a given request the answer of the cache is dismissed with an error, or warrants fresh
credentials, or suits the request as it is. These three exclude nothing, and each decides
how a resolution goes on.
-/

namespace KerberosLogin

variable {ω ν η : Type}

theorem AuthError.recoverable_iff {error : AuthError} : error.recoverable = true ↔
    error.kind = .credentialsUnavailable ∨ error.kind = .credentialsExpired := by
  obtain ⟨kind, diagnostic⟩ := error
  cases kind <;> simp [recoverable, ErrorKind.recoverable]

namespace CredentialSource

/-- Answers of the cache that end a resolution, each with the error it ends in. -/
inductive Dismisses (request : IdentityRequest) :
    Except AuthError (CachedCredential η) → AuthError → Prop where
  | unreadable {error : AuthError} (hunavailable : error.kind ≠ .credentialsUnavailable)
      (hexpired : error.kind ≠ .credentialsExpired) : Dismisses request (.error error) error
  | unrepaired {error : AuthError}
      (hkind : error.kind = .credentialsUnavailable ∨ error.kind = .credentialsExpired)
      (hmissing : request.username = none ∨ request.password = none) :
      Dismisses request (.error error) error
  | expired {found : CachedCredential η} (hexpired : found.lifetime = ⟨0, 0⟩)
      (hpassword : request.password = none) :
      Dismisses request (.ok found) ⟨.credentialsExpired,
        "cached credentials for " ++ found.principal.render ++ " have expired"⟩

/-- Credentials in the cache that are granted for a request. -/
structure Suits (request : IdentityRequest) (found : CachedCredential η) : Prop where
  lasting : found.lifetime ≠ ⟨0, 0⟩
  fitting : request.password = none ∨ ¬ request.Mismatches found.principal

theorem dismissed_or_warranted_or_suits (request : IdentityRequest)
    (answer : Except AuthError (CachedCredential η)) :
    (∃ error, Dismisses request answer error) ∨
      (∃ principal password, request.password = some password ∧
        Warrants request answer principal) ∨
      ∃ found, answer = .ok found ∧ Suits request found := by
  cases answer with
  | error error =>
      by_cases hrecoverable : error.recoverable = true
      · have hkind := AuthError.recoverable_iff.mp hrecoverable
        cases huser : request.username with
        | none => exact .inl ⟨error, .unrepaired hkind (.inl huser)⟩
        | some user =>
            cases hpassword : request.password with
            | none => exact .inl ⟨error, .unrepaired hkind (.inr hpassword)⟩
            | some password =>
                exact .inr (.inl ⟨_, password, rfl, .unreadable hrecoverable huser⟩)
      · obtain ⟨hunavailable, hexpired⟩ := not_or.mp (mt AuthError.recoverable_iff.mpr hrecoverable)
        exact .inl ⟨error, .unreadable hunavailable hexpired⟩
  | ok found =>
      by_cases hunsuitable : request.Mismatches found.principal ∨ found.lifetime = ⟨0, 0⟩
      · cases hpassword : request.password with
        | some password => exact .inr (.inl ⟨_, password, rfl, .unsuitable hunsuitable⟩)
        | none =>
            by_cases hexpired : found.lifetime = ⟨0, 0⟩
            · exact .inl ⟨_, .expired hexpired hpassword⟩
            · exact .inr (.inr ⟨found, rfl, hexpired, .inl hpassword⟩)
      · obtain ⟨hmatches, hlasting⟩ := not_or.mp hunsuitable
        exact .inr (.inr ⟨found, rfl, hlasting, .inr hmatches⟩)

variable {source : CredentialSource ω ν η} {env : CacheEnvironment} {request : IdentityRequest}
  {location : CacheLocation} {shared read last : ω}

theorem resolve_ends_of_fault {fault : CacheLocation.Fault}
    (hlocation : CacheLocation.ofEnvironment env = .error fault) :
    (source.resolve env request).Ends shared (.error fault.toError) shared := by
  unfold resolve
  rw [CacheLocation.locate_of_error hlocation]
  exact (Action.Ends.fail _ _).bind_error _

/-- How a resolution goes on from what the cache has answered. -/
def resume (source : CredentialSource ω ν η) (location : CacheLocation)
    (request : IdentityRequest) :
    Except AuthError (CachedCredential η) → Action ω (ResolverNote ν) (ResolvedCredentials η)
  | .error error => source.resolveUnreadable location request error
  | .ok found => source.resolveFound location request found

theorem resolve_ends_of_resume (hlocation : CacheLocation.ofEnvironment env = .ok location)
    {answer : Except AuthError (CachedCredential η)}
    (hread : (source.cached location).Ends shared answer read)
    {result : Except AuthError (ResolvedCredentials η)}
    (hresume : (source.resume location request answer).Ends read result last) :
    (source.resolve env request).Ends shared result last := by
  unfold resolve
  rw [CacheLocation.locate_of_ok hlocation, bind_assoc]
  apply Action.Ends.note_bind
  rw [pure_bind]
  refine (hread.mapNotes ResolverNote.source).attempt.bind ?_
  cases answer with
  | error error => exact hresume
  | ok found => exact Action.Ends.note_bind hresume

/-! ## The three ways on -/

theorem Dismisses.resume_ends {answer : Except AuthError (CachedCredential η)} {error : AuthError}
    (hdismisses : Dismisses request answer error) (state : ω) :
    (source.resume location request answer).Ends state (.error error) state := by
  cases hdismisses with
  | unreadable hunavailable hexpired =>
      have hfinal : ¬ error.recoverable = true :=
        mt AuthError.recoverable_iff.mp (not_or.mpr ⟨hunavailable, hexpired⟩)
      rw [resume, resolveUnreadable, if_neg hfinal]
      exact .fail _ _
  | unrepaired hkind hmissing =>
      rw [resume, resolveUnreadable, if_pos (AuthError.recoverable_iff.mpr hkind)]
      apply Action.Ends.note_bind
      split
      next user password huser hpassword => simp [huser, hpassword] at hmissing
      next => exact .fail _ _
  | @expired found hexpired hpassword =>
      rw [resume, resolveFound]
      dsimp only
      rw [if_pos (unsuitable_iff.mpr (.inr hexpired)), hpassword]
      dsimp only
      rw [if_pos (CachedCredential.expired_iff.mpr hexpired)]
      exact .fail _ _

theorem Warrants.resume_ends {answer : Except AuthError (CachedCredential η)}
    {principal : Principal} {password : Password}
    (hwarrants : Warrants request answer principal) (hpassword : request.password = some password)
    {result : Except AuthError (ResolvedCredentials η)}
    (hreacquire : (source.reacquire location principal password).Ends read result last) :
    (source.resume location request answer).Ends read result last := by
  cases hwarrants with
  | unreadable hrecoverable huser =>
      rw [resume, resolveUnreadable, if_pos hrecoverable, huser, hpassword]
      exact Action.Ends.note_bind hreacquire
  | unsuitable hunsuitable =>
      rw [resume, resolveFound]
      dsimp only
      rw [if_pos (unsuitable_iff.mpr hunsuitable), hpassword]
      exact Action.Ends.note_bind hreacquire

theorem Suits.resume_ends {found : CachedCredential η} (hsuits : Suits request found) (state : ω) :
    (source.resume location request (.ok found)).Ends state (.ok found.resolved) state := by
  rw [resume, resolveFound]
  dsimp only
  by_cases hmismatches : request.Mismatches found.principal
  · -- Another identity is granted only if no password could replace it.
    have hpassword := hsuits.fitting.resolve_right (not_not.mpr hmismatches)
    have hvalid : ¬ found.expired = true := mt CachedCredential.expired_iff.mp hsuits.lasting
    rw [if_pos (unsuitable_iff.mpr (.inl hmismatches)), hpassword]
    dsimp only
    rw [if_neg hvalid]
    exact Action.Ends.note_bind (Action.Ends.pure _ _)
  · rw [if_neg (mt unsuitable_iff.mp (not_or.mpr ⟨hmismatches, hsuits.lasting⟩))]
    exact Action.Ends.pure _ _

end CredentialSource

end KerberosLogin
