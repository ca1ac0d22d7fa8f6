import KerberosLogin.Proofs.Resolver.Repetition

/-! # The user by default

A caller that names no user can be told who it will be: the user of the cached identity. To ask
for that user is the same as to ask for none, whatever realm and password come with it, so long
as the cache answers as it did. The name by which the operating system knows the user is given
only where the cache gives none.
-/

namespace KerberosLogin

variable {ω ω' ν ν' δ η : Type}

theorem CachedCredential.Alike.resolved_eq {found kept : CachedCredential η}
    (halike : found.Alike kept) : kept.resolved = found.resolved := by
  rw [CachedCredential.resolved, CachedCredential.resolved, halike.handle, halike.principal]

namespace CredentialSource

/-- What naming a user by default leaves behind, and what reaches the source for it. -/
def naming (source : CredentialSource ω ν η) (env : CacheEnvironment) (login : String)
    (shared : ω) : Outcome (List (SourceEvent η) × ω) (ResolverNote ν) String :=
  (source.recorded.defaultUsername env login).run ([], shared)

/-- What reaches the source, and who is named. -/
inductive Naming (env : CacheEnvironment) (login : String) :
    List (SourceEvent η) → Except AuthError String → Prop where
  | unlocated {fault : CacheLocation.Fault}
      (hlocation : CacheLocation.ofEnvironment env = .error fault) :
      Naming env login [] (.ok login)
  | unread {location : CacheLocation}
      (hlocation : CacheLocation.ofEnvironment env = .ok location) (error : AuthError) :
      Naming env login [.cached location (.error error)] (.ok login)
  | read {location : CacheLocation}
      (hlocation : CacheLocation.ofEnvironment env = .ok location) (found : CachedCredential η) :
      Naming env login [.cached location (.ok found)] (.ok found.principal.user)

variable {source : CredentialSource ω ν η} {env : CacheEnvironment} {location : CacheLocation}
  {login : String} {shared last : ω}

/-! ## Who is named -/

theorem defaultUsername_related {W : ω → ω' → Prop} {P : Password → Password → Prop}
    {see : ν → Option δ} {see' : ν' → Option δ} {source' : CredentialSource ω' ν' η}
    (hsource : Related W P see see' source source') (env : CacheEnvironment) (login : String) :
    ActRelated W see see' (source.defaultUsername env login)
      (source'.defaultUsername env login) := by
  unfold defaultUsername
  apply Action.Related.bind
  · apply Action.Related.attempt
    apply (CacheLocation.locate_related (fun _ => by rfl) env).bind_eq
    intro location
    exact ofSource_related (hsource.cached location)
  · intro answer answer' hanswer
    obtain rfl := Outcome.eq_of_resultsRelated hanswer
    cases answer with
    | error error => exact Action.Related.pure rfl
    | ok found => exact Action.Related.pure rfl

theorem unrecorded_naming (source : CredentialSource ω ν η) (env : CacheEnvironment)
    (login : String) (shared : ω) :
    (source.naming env login shared).unrecorded = (source.defaultUsername env login).run shared :=
  (defaultUsername_related source.recorded_related env login).unrecorded_eq [] shared

theorem defaultUsername_ends_of_fault {fault : CacheLocation.Fault}
    (hlocation : CacheLocation.ofEnvironment env = .error fault) :
    (source.defaultUsername env login).Ends shared (.ok login) shared := by
  unfold defaultUsername
  rw [CacheLocation.locate_of_error hlocation]
  exact ((Action.Ends.fail _ _).bind_error _).attempt.bind (Action.Ends.pure _ _)

/-- The user that an answer of the cache names. -/
def userOr (login : String) : Except AuthError (CachedCredential η) → String
  | .ok found => found.principal.user
  | .error _ => login

theorem defaultUsername_ends_of_read (hlocation : CacheLocation.ofEnvironment env = .ok location)
    {answer : Except AuthError (CachedCredential η)}
    (hread : (source.cached location).Ends shared answer last) :
    (source.defaultUsername env login).Ends shared (.ok (userOr login answer)) last := by
  unfold defaultUsername
  rw [CacheLocation.locate_of_ok hlocation, bind_assoc]
  refine (Action.Ends.note_bind (hread.mapNotes ResolverNote.source)).attempt.bind ?_
  cases answer with
  | error error => exact Action.Ends.pure _ _
  | ok found => exact Action.Ends.pure _ _

/-- The cache is read, if there is a place to read it from, and nothing else is done. -/
theorem naming_names (source : CredentialSource ω ν η) (env : CacheEnvironment) (login : String)
    (shared : ω) : Naming env login (source.naming env login shared).state.1
      (source.naming env login shared).result := by
  unfold naming
  cases hlocation : CacheLocation.ofEnvironment env with
  | error fault =>
      have hends : (source.recorded.defaultUsername env login).Ends ([], shared) _ _ :=
        defaultUsername_ends_of_fault hlocation
      rw [hends.state_eq, hends.result_eq]
      exact .unlocated hlocation
  | ok location =>
      have hread : (source.recorded.cached location).Ends ([], shared) _ _ :=
        ((source.cached location).ends_run shared).recorded (SourceEvent.cached location) []
      have hends : (source.recorded.defaultUsername env login).Ends ([], shared) _ _ :=
        defaultUsername_ends_of_read hlocation hread
      rw [hends.state_eq, hends.result_eq]
      cases ((source.cached location).run shared).result with
      | error error => exact .unread hlocation error
      | ok found => exact .read hlocation found

theorem result_naming (hlocation : CacheLocation.ofEnvironment env = .ok location)
    {found : CachedCredential η} (hanswer : source.answer location shared = .ok found) :
    (source.naming env login shared).result = .ok found.principal.user := by
  have hread := (source.cached location).ends_run shared
  have hresult := congrArg Outcome.result (source.unrecorded_naming env login shared)
  rw [(defaultUsername_ends_of_read hlocation hread).result_eq] at hresult
  rw [answer] at hanswer
  rw [hanswer] at hresult
  exact hresult

/-! ## Asking for the user that is named -/

theorem resolveFound_named (source : CredentialSource ω ν η) (location : CacheLocation)
    (found : CachedCredential η) (realm : Option String) (password : Option Password) :
    source.resolveFound location ⟨some found.principal.user, realm, password⟩ found =
      source.resolveFound location ⟨none, realm, password⟩ found := by
  simp [resolveFound, IdentityRequest.userDiffers, IdentityRequest.realmDiffers,
    IdentityRequest.principalOr]

/-- Where the cache can be read, to ask for its user is to ask for none. -/
theorem run_resolve_named (hlocation : CacheLocation.ofEnvironment env = .ok location)
    {found : CachedCredential η} (hanswer : source.answer location shared = .ok found)
    (realm : Option String) (password : Option Password) :
    (source.resolve env ⟨some found.principal.user, realm, password⟩).run shared =
      (source.resolve env ⟨none, realm, password⟩).run shared := by
  unfold answer at hanswer
  unfold resolve
  simp only [CacheLocation.locate_of_ok hlocation, bind_assoc, pure_bind, Action.run_bind,
    Action.run_note, Outcome.andThen_ok, Action.run_attempt, Action.run_mapNotes, hanswer,
    resolveFound_named]

theorem course_named (hlocation : CacheLocation.ofEnvironment env = .ok location)
    {found : CachedCredential η} (hanswer : source.answer location shared = .ok found)
    (realm : Option String) (password : Option Password) :
    source.course env ⟨some found.principal.user, realm, password⟩ shared =
      source.course env ⟨none, realm, password⟩ shared := by
  have hrecorded : source.recorded.answer location ([], shared) = .ok found := hanswer
  exact run_resolve_named hlocation hrecorded realm password

/-! ## What is granted without a password -/

variable {request : IdentityRequest} {resolved : ResolvedCredentials η}

/-- Without a password only what is in the cache can be granted. -/
theorem exists_suits_of_resolve (hlocation : CacheLocation.ofEnvironment env = .ok location)
    (hpassword : request.password = none)
    (hresolved : ((source.resolve env request).run shared).result = .ok resolved) :
    ∃ found, source.answer location shared = .ok found ∧ Suits request found ∧
      found.resolved = resolved := by
  have hread : (source.cached location).Ends shared (source.answer location shared) _ :=
    (source.cached location).ends_run shared
  rcases dismissed_or_warranted_or_suits request (source.answer location shared) with
    ⟨error, hdismisses⟩ | ⟨principal, password, hgiven, -⟩ | ⟨found, hanswer, hsuits⟩
  · have hends := resolve_ends_of_resume hlocation hread (hdismisses.resume_ends _)
    cases hends.result_eq.symm.trans hresolved
  · cases hpassword.symm.trans hgiven
  · rw [hanswer] at hread
    have hends := resolve_ends_of_resume hlocation hread (hsuits.resume_ends _)
    exact ⟨found, hanswer, hsuits, Except.ok.inj (hends.result_eq.symm.trans hresolved)⟩

theorem result_resolve_of_suits (hlocation : CacheLocation.ofEnvironment env = .ok location)
    {found : CachedCredential η} (hanswer : source.answer location shared = .ok found)
    (hsuits : Suits request found) :
    ((source.resolve env request).run shared).result = .ok found.resolved := by
  have hread : (source.cached location).Ends shared (source.answer location shared) _ :=
    (source.cached location).ends_run shared
  rw [hanswer] at hread
  exact (resolve_ends_of_resume hlocation hread (hsuits.resume_ends _)).result_eq

/-- What the user that is named has to do with what is resolved, if the place of the cache can
be derived. The cache may have been asked before, and may be asked later, in any state in which
it answers as it does now. -/
structure AgreesWithResolution (source : CredentialSource ω ν η) (env : CacheEnvironment)
    (location : CacheLocation) (shared : ω) (named : Except AuthError String) : Prop where
  granted : ∀ earlier realm resolved, source.Unchanged location earlier shared →
    ((source.resolve env ⟨none, realm, none⟩).run earlier).result = .ok resolved →
    named = .ok resolved.principal.user ∧ ∀ later, source.Unchanged location shared later →
      ((source.resolve env ⟨some resolved.principal.user, realm, none⟩).run later).result =
        .ok resolved
  readable : ∀ found, source.answer location shared = .ok found → ∃ user, named = .ok user ∧
    ∀ later realm password, source.Unchanged location shared later →
      source.course env ⟨some user, realm, password⟩ later =
          source.course env ⟨none, realm, password⟩ later ∧
        (source.resolve env ⟨some user, realm, password⟩).run later =
          (source.resolve env ⟨none, realm, password⟩).run later

theorem agreesWithResolution (hlocation : CacheLocation.ofEnvironment env = .ok location) :
    AgreesWithResolution source env location shared (source.naming env login shared).result where
  granted := by
    intro earlier realm resolved hunchanged hresolved
    obtain ⟨found, hfound, hsuits, rfl⟩ := exists_suits_of_resolve hlocation rfl hresolved
    obtain ⟨kept, hkept, halike⟩ := hunchanged.exists_alike hfound
    have hlasting : kept.lifetime ≠ ⟨0, 0⟩ := mt halike.expired.mpr hsuits.lasting
    rw [← halike.resolved_eq]
    refine ⟨result_naming hlocation hkept, ?_⟩
    intro later hlater
    obtain ⟨last, hlast, halike'⟩ := hlater.exists_alike hkept
    rw [← halike'.resolved_eq]
    exact result_resolve_of_suits hlocation hlast ⟨mt halike'.expired.mpr hlasting, .inl rfl⟩
  readable := by
    intro found hfound
    refine ⟨found.principal.user, result_naming hlocation hfound, ?_⟩
    intro later realm password hlater
    obtain ⟨kept, hkept, halike⟩ := hlater.exists_alike hfound
    rw [halike.principal]
    exact ⟨course_named hlocation hkept realm password,
      run_resolve_named hlocation hkept realm password⟩

/-- The user by default is the user of the cached identity, expired or not, and the name known
to the operating system where no place can be derived or the cache cannot be read; the cache is
read for it and nothing else is done. If credentials were granted without a user and a password,
it is their user, and they are granted to it again. To ask for it has the same course as to ask
for no user, whatever realm and password are given. -/
theorem default_user_agrees (source : CredentialSource ω ν η) (env : CacheEnvironment)
    (login : String) (shared : ω) :
    (source.naming env login shared).unrecorded = (source.defaultUsername env login).run shared ∧
      Naming env login (source.naming env login shared).state.1
        (source.naming env login shared).result ∧
      ∀ location, CacheLocation.ofEnvironment env = .ok location →
        AgreesWithResolution source env location shared
          (source.naming env login shared).result :=
  ⟨source.unrecorded_naming env login shared, source.naming_names env login shared,
    fun _ => agreesWithResolution⟩

/-- Tickets of Alice's are granted to nobody in particular in another realm, and so to Alice. -/
theorem cached_user_named :
    let env : CacheEnvironment := ⟨some "c", none, []⟩
    let caches : List (String × String) := [("FILE:c", "alice@A")]
    let resolved : ResolvedCredentials String := ⟨"alice@A", ⟨"alice", some "A"⟩, false⟩
    CacheLocation.ofEnvironment env = .ok ⟨"c"⟩ ∧ ofIdentities.Unchanged ⟨"c"⟩ caches caches ∧
      ((ofIdentities.resolve env ⟨none, some "B", none⟩).run caches).result = .ok resolved ∧
      (ofIdentities.naming env "root" caches).result = .ok "alice" ∧
      ((ofIdentities.resolve env ⟨some "alice", some "B", none⟩).run caches).result =
        .ok resolved := by
  intro env caches resolved
  have hlocation : CacheLocation.ofEnvironment env = .ok ⟨"c"⟩ := by rfl
  have hkept : ofIdentities.Unchanged ⟨"c"⟩ caches caches :=
    Outcome.resultsRelated_refl (fun _ => ⟨rfl, rfl, Iff.rfl⟩) _
  have hresolved : ((ofIdentities.resolve env ⟨none, some "B", none⟩).run caches).result =
      .ok resolved := by rfl
  obtain ⟨-, -, hagrees⟩ := ofIdentities.default_user_agrees env "root" caches
  obtain ⟨hnamed, hagain⟩ :=
    (hagrees _ hlocation).granted caches (some "B") resolved hkept hresolved
  exact ⟨hlocation, hkept, hresolved, hnamed, hagain caches hkept⟩

end CredentialSource

end KerberosLogin
