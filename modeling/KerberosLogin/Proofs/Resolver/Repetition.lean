import KerberosLogin.Proofs.Principal
import KerberosLogin.Proofs.Resolver.Identity
import KerberosLogin.Proofs.Resolver.Verdict

/-! # Resolving again

A source may keep faithfully what is stored in it: acquired credentials are read back under
the principal they were acquired for, as it is written, and a cache changes only when
something is stored. From such a source a request that was granted once is granted again out
of the cache alone, with the same credentials, as often as it is made.
-/

namespace KerberosLogin

variable {ω ν η : Type}

/-- Credentials that differ at most in how long they last, and of which neither or both have
expired. -/
structure CachedCredential.Alike (found found' : CachedCredential η) : Prop where
  handle : found.handle = found'.handle
  principal : found.principal = found'.principal
  expired : found.lifetime = ⟨0, 0⟩ ↔ found'.lifetime = ⟨0, 0⟩

def SourceEvent.isAcquisition : SourceEvent η → Bool
  | acquire _ _ _ => true
  | _ => false

namespace CredentialSource

/-- What a cache answers in a state of the source. -/
def answer (source : CredentialSource ω ν η) (location : CacheLocation) (shared : ω) :
    Except AuthError (CachedCredential η) :=
  ((source.cached location).run shared).result

/-- Whether a cache answers in a later state as it has answered before. -/
def Unchanged (source : CredentialSource ω ν η) (location : CacheLocation)
    (shared later : ω) : Prop :=
  Outcome.ResultsRelated CachedCredential.Alike (source.answer location shared)
    (source.answer location later)

/-- A source that keeps what is stored. Nothing is asked of it where storing fails. -/
structure KeepsStored (source : CredentialSource ω ν η) : Prop where
  parsed : ∀ location shared found, source.answer location shared = .ok found →
    ∃ identity, found.principal = Principal.parse identity
  read : ∀ location shared,
    source.Unchanged location shared ((source.cached location).run shared).state
  stored : ∀ location principal password shared handle acquired kept,
    (source.acquireWithPassword principal password).Yields shared handle acquired →
    (source.store handle location).Yields acquired () kept →
    ∃ lifetime ≠ ⟨0, 0⟩, source.answer location kept =
      .ok ⟨handle, Principal.parse principal.render, lifetime⟩

/-- Whether a cache holds credentials that were granted for a request, and that will be
granted for it again. -/
structure Holds (source : CredentialSource ω ν η) (location : CacheLocation)
    (request : IdentityRequest) (resolved : ResolvedCredentials η) (shared : ω)
    (found : CachedCredential η) : Prop where
  answer : source.answer location shared = .ok found
  handle : found.handle = resolved.handle
  principal : found.principal = resolved.principal
  lasting : found.lifetime ≠ ⟨0, 0⟩
  fitting : request.password = none ∨ ¬ request.Mismatches found.principal

variable {source : CredentialSource ω ν η} {env : CacheEnvironment} {request : IdentityRequest}
  {location : CacheLocation} {principal : Principal} {password : Password}
  {resolved : ResolvedCredentials η} {shared last : ω}

/-! ## After a success -/

theorem exists_yields_of_reacquire
    (hreacquire : (source.reacquire location principal password).Yields shared resolved last) :
    ∃ handle acquired, (source.acquireWithPassword principal password).Yields shared handle
        acquired ∧ (source.store handle location).Yields acquired () last ∧
      resolved = ⟨handle, principal, true⟩ := by
  simp only [reacquire, Action.yields_bind_iff, Action.yields_note_iff,
    Action.yields_mapNotes_iff, Action.yields_pure_iff] at hreacquire
  obtain ⟨_, _, rfl, handle, acquired, hacquire, _, _, hstore, _, _, rfl, rfl, rfl⟩ := hreacquire
  exact ⟨handle, acquired, hacquire, hstore, rfl⟩

/-- The user that credentials are acquired for was asked for, or was read. -/
theorem Warrants.not_mem_user {read : Except AuthError (CachedCredential η)}
    (hwarrants : Warrants request read principal)
    (huser : ∀ user, request.username = some user → '@' ∉ user.toList)
    (hparsed : ∀ found, read = .ok found → ∃ identity, found.principal = .parse identity) :
    '@' ∉ principal.user.toList := by
  cases hwarrants with
  | unreadable _ hasked => exact huser _ hasked
  | @unsuitable found =>
      cases hasked : request.username with
      | some user => exact huser user hasked
      | none =>
          obtain ⟨identity, hidentity⟩ := hparsed found rfl
          rw [Option.getD_none, hidentity]
          exact Principal.not_mem_user_parse identity

theorem exists_holds_of_reacquire (hsource : source.KeepsStored)
    {read : Except AuthError (CachedCredential η)} (hwarrants : Warrants request read principal)
    (huser : ∀ user, request.username = some user → '@' ∉ user.toList)
    (hparsed : ∀ found, read = .ok found → ∃ identity, found.principal = .parse identity)
    (hreacquire : (source.reacquire location principal password).Yields shared resolved last) :
    ∃ found, source.Holds location request resolved last found := by
  obtain ⟨handle, acquired, hacquire, hstore, rfl⟩ := exists_yields_of_reacquire hreacquire
  obtain ⟨lifetime, hlasting, hanswer⟩ :=
    hsource.stored _ _ _ _ _ _ _ hacquire hstore
  -- What was written down for the cache is read back as it was meant.
  have hread := Principal.parse_render (hwarrants.not_mem_user huser hparsed)
  rw [hread] at hanswer
  have hmatches : ¬ request.Mismatches principal := by
    obtain ⟨hasked, hrealm⟩ := hwarrants.asked
    rw [IdentityRequest.not_mismatches_iff]
    exact ⟨hasked, fun realm h => .inl (hrealm realm h)⟩
  exact ⟨_, hanswer, rfl, rfl, hlasting, .inr hmatches⟩

theorem Unchanged.exists_alike {found : CachedCredential η}
    (hkept : source.Unchanged location shared last)
    (hanswer : source.answer location shared = .ok found) :
    ∃ kept, source.answer location last = .ok kept ∧ found.Alike kept := by
  rw [Unchanged, hanswer] at hkept
  cases hlast : source.answer location last with
  | error error => rw [hlast] at hkept; exact hkept.elim
  | ok kept => rw [hlast] at hkept; exact ⟨kept, rfl, hkept⟩

theorem Holds.unchanged {found : CachedCredential η}
    (hholds : source.Holds location request resolved shared found)
    (hkept : source.Unchanged location shared last) :
    ∃ found, source.Holds location request resolved last found := by
  obtain ⟨kept, hanswer, hhandle, hprincipal, hexpired⟩ := hkept.exists_alike hholds.answer
  refine ⟨kept, hanswer, ?_, ?_, mt hexpired.mpr hholds.lasting, ?_⟩
  · rw [← hhandle, hholds.handle]
  · rw [← hprincipal, hholds.principal]
  · rw [← hprincipal]
    exact hholds.fitting

/-- What a resolution has granted is in the cache afterwards. -/
theorem exists_holds_of_resolve (hsource : source.KeepsStored)
    (huser : ∀ user, request.username = some user → '@' ∉ user.toList)
    (hlocation : CacheLocation.ofEnvironment env = .ok location)
    (hresolve : (source.resolve env request).Yields shared resolved last) :
    ∃ found, source.Holds location request resolved last found := by
  have hread : (source.cached location).Ends shared (source.answer location shared) _ :=
    (source.cached location).ends_run shared
  rcases dismissed_or_warranted_or_suits request (source.answer location shared) with
    ⟨error, hdismisses⟩ | ⟨principal, password, hpassword, hwarrants⟩ | ⟨found, hanswer, hsuits⟩
  · have hends := resolve_ends_of_resume hlocation hread (hdismisses.resume_ends _)
    cases (hends.unique hresolve).1
  · have hreacquire := (source.reacquire location principal password).ends_run
      ((source.cached location).run shared).state
    have hends := resolve_ends_of_resume hlocation hread
      (hwarrants.resume_ends hpassword hreacquire)
    obtain ⟨hresult, hstate⟩ := hends.unique hresolve
    rw [hresult, hstate] at hreacquire
    exact exists_holds_of_reacquire hsource hwarrants huser (hsource.parsed location shared)
      hreacquire
  · -- Looking leaves the cache as it is, so that what was read is there for the next look.
    rw [hanswer] at hread
    have hends := resolve_ends_of_resume hlocation hread (hsuits.resume_ends _)
    obtain ⟨hresult, rfl⟩ := hends.unique hresolve
    cases hresult
    have hholds : source.Holds location request found.resolved shared found :=
      ⟨hanswer, rfl, rfl, hsuits.lasting, hsuits.fitting⟩
    exact hholds.unchanged (hsource.read location shared)

/-! ## The next time -/

/-- Credentials that the cache holds for a request are granted as they are. -/
theorem Holds.resolve_yields {found : CachedCredential η}
    (hlocation : CacheLocation.ofEnvironment env = .ok location)
    (hholds : source.Holds location request resolved shared found) :
    (source.resolve env request).Yields shared ⟨resolved.handle, resolved.principal, false⟩
      ((source.cached location).run shared).state := by
  have hgranted : found.resolved = ⟨resolved.handle, resolved.principal, false⟩ := by
    rw [CachedCredential.resolved, hholds.handle, hholds.principal]
  have hsuits : Suits request found := ⟨hholds.lasting, hholds.fitting⟩
  have hread : (source.cached location).Ends shared (source.answer location shared) _ :=
    (source.cached location).ends_run shared
  rw [hholds.answer] at hread
  rw [← hgranted]
  exact resolve_ends_of_resume hlocation hread (hsuits.resume_ends _)

/-- Once a request was granted, it stays granted: what is granted the next time is the same,
is in the cache afterwards too, and comes from a single look into it. -/
theorem Holds.resolve_again (hsource : source.KeepsStored)
    (hlocation : CacheLocation.ofEnvironment env = .ok location) {found : CachedCredential η}
    (hholds : source.Holds location request resolved shared found) :
    ((source.resolve env request).run shared).result =
        .ok ⟨resolved.handle, resolved.principal, false⟩ ∧
      (∃ place read, (source.course env request shared).state.1 = [.cached place (.ok read)]) ∧
      ∃ found, source.Holds location request resolved
        ((source.resolve env request).run shared).state found := by
  obtain ⟨notes, hrun⟩ := hholds.resolve_yields hlocation
  have hcourse := source.unrecorded_course env request shared
  have hresolution := source.resolution env request shared
  rw [hrun] at hcourse ⊢
  refine ⟨rfl, ?_, hholds.unchanged (hsource.read location shared)⟩
  have hresult : (source.course env request shared).result =
      .ok ⟨resolved.handle, resolved.principal, false⟩ := congrArg Outcome.result hcourse
  rw [hresult] at hresolution
  obtain ⟨place, read, hevents, -⟩ := hresolution.granted.cached rfl
  exact ⟨place, read, hevents⟩

/-- In a row of resolutions of one request, the cache unchanged from the end of each to the
beginning of the next, every one after a success finds what was granted. -/
theorem exists_holds_of_row (hsource : source.KeepsStored)
    (huser : ∀ user, request.username = some user → '@' ∉ user.toList)
    (hlocation : CacheLocation.ofEnvironment env = .ok location) {states : Nat → ω}
    (hfirst : ((source.resolve env request).run (states 0)).result = .ok resolved)
    (hrow : ∀ n, source.Unchanged location ((source.resolve env request).run (states n)).state
      (states (n + 1))) (n : Nat) :
    ∃ found, source.Holds location request resolved (states (n + 1)) found := by
  induction n with
  | zero =>
      have hgranted := Action.yields_of_result_eq hfirst
      obtain ⟨found, hholds⟩ := exists_holds_of_resolve hsource huser hlocation hgranted
      exact hholds.unchanged (hrow 0)
  | succ n ih =>
      obtain ⟨found, hholds⟩ := ih
      obtain ⟨-, -, found', hkept⟩ := hholds.resolve_again hsource hlocation
      exact hkept.unchanged (hrow (n + 1))

theorem exists_location_of_resolve
    (hresolve : (source.resolve env request).Yields shared resolved last) :
    ∃ location, CacheLocation.ofEnvironment env = .ok location := by
  cases hlocation : CacheLocation.ofEnvironment env with
  | error fault => cases ((resolve_ends_of_fault hlocation).unique hresolve).1
  | ok location => exact ⟨location, rfl⟩

/-- One resolution acquires at most once. -/
theorem Resolution.countP_isAcquisition_le {events : List (SourceEvent η)}
    {warnings : List LogRecord} {result : Except AuthError (ResolvedCredentials η)}
    (hresolution : Resolution env request events warnings result) :
    events.countP SourceEvent.isAcquisition ≤ 1 := by
  cases hresolution with
  | reacquired _ _ _ hreacquisition =>
      cases hreacquisition <;> simp [List.countP_cons, SourceEvent.isAcquisition]
  | _ => simp [SourceEvent.isAcquisition]

/-- A request that was granted once is granted again as often as it is made, as long as the
cache stays as each resolution leaves it: with the same credentials, out of the cache, and
with nothing acquired or stored. Over all, the password is used at most once. -/
theorem resolve_repeatable (source : CredentialSource ω ν η) (hsource : source.KeepsStored)
    (env : CacheEnvironment) (request : IdentityRequest)
    (huser : ∀ user, request.username = some user → '@' ∉ user.toList) (states : Nat → ω)
    (hfirst : ((source.resolve env request).run (states 0)).result = .ok resolved)
    (hrow : ∀ location, CacheLocation.ofEnvironment env = .ok location → ∀ n,
      source.Unchanged location ((source.resolve env request).run (states n)).state
        (states (n + 1))) :
    (∀ n, (source.course env request (states n)).unrecorded =
        (source.resolve env request).run (states n)) ∧
      (∀ n, ((source.resolve env request).run (states (n + 1))).result =
          .ok ⟨resolved.handle, resolved.principal, false⟩ ∧
        ∃ location found, (source.course env request (states (n + 1))).state.1 =
          [.cached location (.ok found)]) ∧
      ∀ count, ((List.range count).flatMap fun n =>
        (source.course env request (states n)).state.1).countP SourceEvent.isAcquisition ≤ 1 := by
  obtain ⟨location, hlocation⟩ := exists_location_of_resolve (Action.yields_of_result_eq hfirst)
  have hholds := exists_holds_of_row hsource huser hlocation hfirst (hrow location hlocation)
  have hagain : ∀ n, ((source.resolve env request).run (states (n + 1))).result =
        .ok ⟨resolved.handle, resolved.principal, false⟩ ∧
      ∃ location found, (source.course env request (states (n + 1))).state.1 =
        [.cached location (.ok found)] := by
    intro n
    obtain ⟨found, hholds⟩ := hholds n
    obtain ⟨hresult, hevents, -⟩ := hholds.resolve_again hsource hlocation
    exact ⟨hresult, hevents⟩
  refine ⟨fun n => source.unrecorded_course env request (states n), hagain, ?_⟩
  intro count
  cases count with
  | zero => simp
  | succ count =>
      -- Only the first resolution may have acquired anything.
      have hlater : (((List.range count).map Nat.succ).flatMap fun n =>
          (source.course env request (states n)).state.1).countP SourceEvent.isAcquisition = 0 := by
        rw [List.countP_eq_zero]
        intro event hevent
        obtain ⟨_, hn, hevent⟩ := List.mem_flatMap.mp hevent
        obtain ⟨n, -, rfl⟩ := List.mem_map.mp hn
        obtain ⟨-, location, found, hevents⟩ := hagain n
        rw [hevents, List.mem_singleton] at hevent
        subst hevent
        exact Bool.false_ne_true
      rw [List.range_succ_eq_map, List.flatMap_cons, List.countP_append, hlater, Nat.add_zero]
      exact (source.resolution env request (states 0)).countP_isAcquisition_le

/-- A source whose credentials are the written identities, and whose caches are listed with
what was stored last in front. -/
def ofIdentities : CredentialSource (List (String × String)) Empty String where
  cached location := do
    match (← Action.get).lookup location.name with
    | some identity => return ⟨identity, .parse identity, ⟨1, 0⟩⟩
    | none => Action.fail ⟨.credentialsUnavailable, "no ccache at " ++ location.name⟩
  acquireWithPassword principal _ := return principal.render
  store identity location := Action.modify fun caches => (location.name, identity) :: caches

theorem run_cached_ofIdentities (location : CacheLocation) (caches : List (String × String)) :
    (ofIdentities.cached location).run caches =
      ⟨match caches.lookup location.name with
        | some identity => .ok ⟨identity, .parse identity, ⟨1, 0⟩⟩
        | none => .error ⟨.credentialsUnavailable, "no ccache at " ++ location.name⟩,
        caches, []⟩ := by
  simp only [ofIdentities, Action.run_bind, Action.run_get, Outcome.andThen_ok]
  cases caches.lookup location.name <;> rfl

theorem ofIdentities_keepsStored : ofIdentities.KeepsStored where
  parsed := by
    intro location caches found hanswer
    rw [answer, run_cached_ofIdentities] at hanswer
    dsimp only at hanswer
    split at hanswer
    next identity _ =>
      cases hanswer
      exact ⟨identity, rfl⟩
    next => cases hanswer
  read := by
    intro location caches
    have hstate : ((ofIdentities.cached location).run caches).state = caches := by
      rw [run_cached_ofIdentities]
    rw [hstate, Unchanged]
    exact Outcome.resultsRelated_refl (fun _ => ⟨rfl, rfl, Iff.rfl⟩) _
  stored := by
    intro location principal password caches handle acquired kept hacquire hstore
    obtain ⟨rfl, rfl⟩ := Action.yields_pure_iff.mp hacquire
    obtain ⟨notes, hrun⟩ := hstore
    cases hrun
    refine ⟨⟨1, 0⟩, by decide, ?_⟩
    simp [answer, run_cached_ofIdentities]

/-- Credentials are acquired for an empty cache and are found in it from then on. -/
theorem identities_granted_again :
    let env : CacheEnvironment := ⟨some "c", none, []⟩
    let request : IdentityRequest := ⟨some "alice", some "A", some ⟨"secret"⟩⟩
    let states : Nat → List (String × String) := fun n =>
      if n = 0 then [] else [("FILE:c", "alice@A")]
    let resolved : ResolvedCredentials String := ⟨"alice@A", ⟨"alice", some "A"⟩, true⟩
    ((ofIdentities.resolve env request).run (states 0)).result = .ok resolved ∧
      (∀ n, (ofIdentities.course env request (states n)).unrecorded =
        (ofIdentities.resolve env request).run (states n)) ∧
      (∀ n, ((ofIdentities.resolve env request).run (states (n + 1))).result =
          .ok ⟨"alice@A", ⟨"alice", some "A"⟩, false⟩ ∧
        ∃ location found, (ofIdentities.course env request (states (n + 1))).state.1 =
          [.cached location (.ok found)]) ∧
      ∀ count, ((List.range count).flatMap fun n =>
        (ofIdentities.course env request (states n)).state.1).countP
          SourceEvent.isAcquisition ≤ 1 := by
  intro env request states resolved
  have huser : ∀ user, request.username = some user → '@' ∉ user.toList := by
    intro user hasked
    cases hasked
    decide
  have hfirst : ((ofIdentities.resolve env request).run (states 0)).result = .ok resolved := by rfl
  have hstate : ∀ n, ((ofIdentities.resolve env request).run (states n)).state =
      states (n + 1) := by
    intro n
    cases n <;> rfl
  refine ⟨hfirst, resolve_repeatable _ ofIdentities_keepsStored env request huser states hfirst ?_⟩
  intro location hlocation n
  rw [hstate]
  exact Outcome.resultsRelated_refl (fun _ => ⟨rfl, rfl, Iff.rfl⟩) _

end CredentialSource

end KerberosLogin
