import KerberosLogin.Resolver
import KerberosLogin.Proofs.Action
import Mathlib.Data.Option.Basic

/-! # Corresponding sources of credentials

Credentials are chosen alike from sources that answer alike, whatever states they keep.
Passwords need not be the same on both sides, as long as the sources take them alike.
-/

namespace KerberosLogin

variable {ω ω' ν ν' δ η : Type}

/-- A note of the resolver, with what an observer makes of the source's notes. -/
def ResolverNote.seen (see : ν → Option δ) : ResolverNote ν → Option (ResolverNote δ)
  | .source entry => (see entry).map .source
  | .usingCache location => some (.usingCache location)
  | .cacheUnusable error => some (.cacheUnusable error)
  | .cacheFound principal => some (.cacheFound principal)
  | .cacheUnsuitable userDiffers realmDiffers expired =>
    some (.cacheUnsuitable userDiffers realmDiffers expired)
  | .identityDiffers cached requested => some (.identityDiffers cached requested)
  | .acquiring principal => some (.acquiring principal)
  | .stored principal location => some (.stored principal location)

theorem ResolverNote.seen_some (entry : ResolverNote ν) : entry.seen some = some entry := by
  cases entry <;> rfl

/-- Requests for the same identity with corresponding passwords. -/
structure IdentityRequest.Related (P : Password → Password → Prop)
    (request request' : IdentityRequest) : Prop where
  username : request.username = request'.username
  realm : request.realm = request'.realm
  password : Option.Rel P request.password request'.password

namespace CacheLocation

theorem Fault.toError_kind (fault : Fault) : fault.toError.kind = .configuration := by
  cases fault <;> rfl

theorem locate_of_error {env : CacheEnvironment} {fault : Fault}
    (hlocation : ofEnvironment env = .error fault) (entry : CacheLocation → ν) :
    (locate entry env : Action ω ν CacheLocation) = Action.fail fault.toError := by
  unfold locate
  rw [hlocation]
  rfl

theorem locate_of_ok {env : CacheEnvironment} {location : CacheLocation}
    (hlocation : ofEnvironment env = .ok location) (entry : CacheLocation → ν) :
    (locate entry env : Action ω ν CacheLocation) = do
      Action.note (entry location)
      return location := by
  unfold locate
  rw [hlocation]
  rfl

theorem locate_related {S : ω → ω' → Prop} {see : ν → Option δ} {see' : ν' → Option δ}
    {entry : CacheLocation → ν} {entry' : CacheLocation → ν'}
    (hentry : ∀ location, see (entry location) = see' (entry' location))
    (env : CacheEnvironment) :
    Action.Related S see see' Eq (locate entry env) (locate entry' env) := by
  cases hlocation : ofEnvironment env with
  | error fault =>
      rw [locate_of_error hlocation, locate_of_error hlocation]
      exact Action.Related.fail _
  | ok location =>
      rw [locate_of_ok hlocation, locate_of_ok hlocation]
      exact Action.Related.note_bind (hentry location) (Action.Related.pure rfl)

end CacheLocation

namespace CredentialSource

/-- Sources with the same handles that answer alike. -/
structure Related (W : ω → ω' → Prop) (P : Password → Password → Prop) (see : ν → Option δ)
    (see' : ν' → Option δ) (source : CredentialSource ω ν η) (source' : CredentialSource ω' ν' η) :
    Prop where
  cached : ∀ location,
    Action.Related W see see' Eq (source.cached location) (source'.cached location)
  acquire : ∀ principal password password', P password password' →
    Action.Related W see see' Eq (source.acquireWithPassword principal password)
      (source'.acquireWithPassword principal password')
  store : ∀ handle location,
    Action.Related W see see' Eq (source.store handle location) (source'.store handle location)

/-- Sources that answer alike when credentials are acquired and stored. What they find in a
cache is left open. -/
structure AcquiresAlike (W : ω → ω' → Prop) (P : Password → Password → Prop) (see : ν → Option δ)
    (see' : ν' → Option δ) (source : CredentialSource ω ν η) (source' : CredentialSource ω' ν' η) :
    Prop where
  acquire : ∀ principal password password', P password password' →
    Action.Related W see see' Eq (source.acquireWithPassword principal password)
      (source'.acquireWithPassword principal password')
  store : ∀ handle location,
    Action.Related W see see' Eq (source.store handle location) (source'.store handle location)

variable {W : ω → ω' → Prop} {P : Password → Password → Prop} {see : ν → Option δ}
  {see' : ν' → Option δ} {source : CredentialSource ω ν η} {source' : CredentialSource ω' ν' η}
  {request request' : IdentityRequest}

theorem Related.acquiresAlike (hsource : Related W P see see' source source') :
    AcquiresAlike W P see see' source source' :=
  ⟨hsource.acquire, hsource.store⟩

/-- Actions of two resolvers that correspond. -/
abbrev ActRelated {α : Type} (W : ω → ω' → Prop) (see : ν → Option δ) (see' : ν' → Option δ)
    (action : Action ω (ResolverNote ν) α) (action' : Action ω' (ResolverNote ν') α) : Prop :=
  Action.Related W (ResolverNote.seen see) (ResolverNote.seen see') Eq action action'

theorem ofSource_related {α : Type} {action : Action ω ν α} {action' : Action ω' ν' α}
    (haction : Action.Related W see see' Eq action action') :
    ActRelated W see see' (action.mapNotes .source) (action'.mapNotes .source) :=
  haction.mapNotes .source (fun _ => rfl) (fun _ => rfl)

theorem reacquire_related (hsource : AcquiresAlike W P see see' source source')
    (location : CacheLocation) (principal : Principal) {password password' : Password}
    (hpassword : P password password') :
    ActRelated W see see' (source.reacquire location principal password)
      (source'.reacquire location principal password') := by
  unfold reacquire
  apply Action.Related.note_bind (by rfl)
  apply (ofSource_related (hsource.acquire principal _ _ hpassword)).bind_eq
  intro handle
  apply (ofSource_related (hsource.store handle location)).bind_eq
  intro _
  exact Action.Related.note_bind (by rfl) (Action.Related.pure rfl)

variable (hsource : Related W P see see' source source')
include hsource

theorem resolveUnreadable_related (hrequest : request.Related P request')
    (location : CacheLocation) (error : AuthError) :
    ActRelated W see see' (source.resolveUnreadable location request error)
      (source'.resolveUnreadable location request' error) := by
  obtain ⟨username, realm, password⟩ := request
  obtain ⟨username', realm', password'⟩ := request'
  obtain ⟨rfl, rfl, hpassword⟩ := hrequest
  unfold resolveUnreadable
  refine Action.Related.ite Iff.rfl (Action.Related.note_bind (by rfl) ?_)
    (Action.Related.fail error)
  dsimp only at hpassword ⊢
  cases username with
  | none => exact Action.Related.fail error
  | some user =>
      cases hpassword with
      | none => exact Action.Related.fail error
      | some hpassword => exact reacquire_related hsource.acquiresAlike location _ hpassword

theorem resolveFound_related (hrequest : request.Related P request')
    (location : CacheLocation) (found : CachedCredential η) :
    ActRelated W see see' (source.resolveFound location request found)
      (source'.resolveFound location request' found) := by
  obtain ⟨username, realm, password⟩ := request
  obtain ⟨username', realm', password'⟩ := request'
  obtain ⟨rfl, rfl, hpassword⟩ := hrequest
  unfold resolveFound
  -- Whether the credentials are suitable does not depend on the password.
  refine Action.Related.ite Iff.rfl ?_ (Action.Related.pure rfl)
  dsimp only at hpassword ⊢
  cases hpassword with
  | none =>
      exact Action.Related.ite Iff.rfl (Action.Related.fail _)
        (Action.Related.note_bind (by rfl) (Action.Related.pure rfl))
  | some hpassword =>
      exact Action.Related.note_bind (by rfl)
        (reacquire_related hsource.acquiresAlike location _ hpassword)

/-- Corresponding requests are resolved alike from corresponding sources. -/
theorem resolve_related (hrequest : request.Related P request') (env : CacheEnvironment) :
    ActRelated W see see' (source.resolve env request) (source'.resolve env request') := by
  unfold resolve
  apply Action.Related.bind_eq
  · exact CacheLocation.locate_related (fun _ => by rfl) env
  intro location
  apply (Action.Related.attempt (ofSource_related (hsource.cached location))).bind
  intro answer answer' hanswer
  obtain rfl := Outcome.eq_of_resultsRelated hanswer
  cases answer with
  | error error => exact resolveUnreadable_related hsource hrequest location error
  | ok found =>
      exact Action.Related.note_bind (by rfl)
        (resolveFound_related hsource hrequest location found)

end CredentialSource

end KerberosLogin
