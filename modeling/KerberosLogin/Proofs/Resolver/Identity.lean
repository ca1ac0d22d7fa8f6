import KerberosLogin.Proofs.Resolver.Course
import KerberosLogin.StandIn.Scripted

/-! # Whose credentials are chosen

The identity that a resolution settles on, measured against the one asked for. With a
password it is the one asked for, except that a cached identity may lack a realm; without
one it is whatever the cache holds, and a difference is warned of.
-/

namespace KerberosLogin

variable {ω ν η : Type}

theorem IdentityRequest.not_mismatches_iff {request : IdentityRequest} {principal : Principal} :
    ¬ request.Mismatches principal ↔
      (∀ user, request.username = some user → principal.user = user) ∧
        ∀ realm, request.realm = some realm →
          principal.realm = some realm ∨ principal.realm = none := by
  obtain ⟨user, realm⟩ := principal
  cases realm with
  | none => simp [Mismatches, eq_comm]
  | some realm => simp [Mismatches, eq_comm]

namespace CredentialSource

variable {env : CacheEnvironment} {request : IdentityRequest} {location : CacheLocation}
  {principal : Principal} {password : Password} {events : List (SourceEvent η)}
  {warnings : List LogRecord} {resolved : ResolvedCredentials η}

/-- What is known of credentials that a resolution has yielded. -/
structure Granted (request : IdentityRequest) (events : List (SourceEvent η))
    (warnings : List LogRecord) (resolved : ResolvedCredentials η) : Prop where
  cached : resolved.reacquired = false → ∃ location found,
    events = [.cached location (.ok found)] ∧ resolved.handle = found.handle ∧
      resolved.principal = found.principal ∧ found.lifetime ≠ ⟨0, 0⟩
  user : ∀ password user, request.password = some password → request.username = some user →
    resolved.principal.user = user
  realm : ∀ password realm, request.password = some password → request.realm = some realm →
    resolved.principal.realm = some realm ∨
      resolved.reacquired = false ∧ resolved.principal.realm = none
  spared : request.password = none → resolved.reacquired = false
  warned : resolved.reacquired = false → request.Mismatches resolved.principal →
    request.password = none ∧ warnings =
      [differingIdentity resolved.principal (request.principalOr resolved.principal)]
  unwarned : ¬ (resolved.reacquired = false ∧ request.Mismatches resolved.principal) →
    warnings = []

/-- A principal that is acquired is the one asked for, as far as one was. -/
theorem Warrants.asked {answer : Except AuthError (CachedCredential η)}
    (hwarrants : Warrants request answer principal) :
    (∀ user, request.username = some user → principal.user = user) ∧
      ∀ realm, request.realm = some realm → principal.realm = some realm := by
  cases hwarrants with
  | unreadable _ huser =>
      rw [huser]
      exact ⟨fun _ => Option.some.inj, fun _ => id⟩
  | unsuitable =>
      constructor
      · intro user huser
        rw [huser, Option.getD_some]
      · intro realm hrealm
        rw [hrealm, Option.some_or]

theorem Resolution.granted
    (hresolution : Resolution env request events warnings (.ok resolved)) :
    Granted request events warnings resolved := by
  generalize hresult : Except.ok resolved = result at hresolution
  cases hresolution with
  | unlocated | unreadable | unrepaired | expired => cases hresult
  | reacquired _ hpassword hwarrants hreacquisition =>
      cases hreacquisition with
      | refused | unstored => cases hresult
      | stored handle =>
          cases hresult
          obtain ⟨huser, hrealm⟩ := hwarrants.asked
          refine ⟨nofun, fun _ user _ => huser user, fun _ realm _ h => .inl (hrealm realm h), ?_,
            nofun, fun _ => rfl⟩
          rw [hpassword]
          exact nofun
  | @differing location found _ hpassword hlasting hmismatches =>
      cases hresult
      refine ⟨fun _ => ⟨location, found, rfl, rfl, rfl, hlasting⟩, ?_, ?_, fun _ => rfl,
        fun _ _ => ⟨hpassword, rfl⟩, fun hsame => absurd ⟨rfl, hmismatches⟩ hsame⟩
      · rw [hpassword]
        exact nofun
      · rw [hpassword]
        exact nofun
  | @suitable location found _ hlasting hmatches =>
      cases hresult
      obtain ⟨huser, hrealm⟩ := IdentityRequest.not_mismatches_iff.mp hmatches
      refine ⟨fun _ => ⟨location, found, rfl, rfl, rfl, hlasting⟩, fun _ user _ => huser user, ?_,
        fun _ => rfl, fun _ hmismatches => absurd hmismatches hmatches, fun _ => rfl⟩
      intro _ realm _ hasked
      exact (hrealm realm hasked).imp_right fun hnone => ⟨rfl, hnone⟩

/-- Credentials from the cache are handed on as they were read, and never once they have
expired. If a password was given, the user is the one asked for, and so is the realm
unless the cached identity has none; if none was given, nothing is acquired. The warning
is given exactly for a cached identity that differs from the one asked for. -/
theorem resolved_as_requested (source : CredentialSource ω ν η) (env : CacheEnvironment)
    (request : IdentityRequest) (shared : ω)
    (hresolved : ((source.resolve env request).run shared).result = .ok resolved) :
    (source.course env request shared).unrecorded = (source.resolve env request).run shared ∧
      Granted request (source.course env request shared).state.1
        (((source.resolve env request).run shared).notes.filterMap ResolverNote.warning?)
        resolved := by
  have hresolution := source.resolution env request shared
  have hrun := source.unrecorded_course env request shared
  refine ⟨hrun, ?_⟩
  rw [← hrun] at hresolved ⊢
  unfold Outcome.unrecorded at hresolved ⊢
  rw [hresolved] at hresolution
  exact hresolution.granted

/-- With a password, a cached identity without a realm stands for the realm asked for. -/
theorem resolved_without_realm :
    let stage : StandIn.Stage := ⟨[("FILE:c", .holding ⟨"alice", none⟩ ⟨0, 1⟩)], [], []⟩
    let env : CacheEnvironment := ⟨some "c", none, []⟩
    let request : IdentityRequest := ⟨some "alice", some "A", some ⟨"secret"⟩⟩
    let resolved : ResolvedCredentials String := ⟨"cached:alice", ⟨"alice", none⟩, false⟩
    let source := StandIn.SourceScript.source {}
    ((source.resolve env request).run stage).result = .ok resolved ∧
      (source.course env request stage).unrecorded = (source.resolve env request).run stage ∧
      Granted request (source.course env request stage).state.1
        (((source.resolve env request).run stage).notes.filterMap ResolverNote.warning?)
        resolved :=
  ⟨by rfl, resolved_as_requested _ _ _ _ (by rfl)⟩

end CredentialSource

end KerberosLogin
