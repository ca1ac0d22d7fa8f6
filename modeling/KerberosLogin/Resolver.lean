import KerberosLogin.CredentialSource

/-! # Choosing credentials

Which credentials a login uses is decided here. The cache is read first. When it
holds nothing usable, or tickets that have expired, or another identity than the
one asked for, and a password was given, fresh credentials are acquired and
stored, once. Without a password an unusable or expired cache ends the attempt,
while an identity that differs is used all the same, with a warning.
-/

namespace KerberosLogin

/-- What the caller asks to authenticate as. -/
structure IdentityRequest where
  /-- The user, without realm. -/
  username : Option String := none
  /-- The realm that the server expects. -/
  realm : Option String := none
  /-- The password for acquiring fresh credentials. -/
  password : Option Password := none
  deriving DecidableEq

namespace IdentityRequest

/-- Whether a user was asked for that is not the principal's. -/
def userDiffers (request : IdentityRequest) (principal : Principal) : Bool :=
  match request.username with
  | some user => decide (user ≠ principal.user)
  | none => false

/-- Whether a realm was asked for that is not the principal's. A principal
without a realm differs from none. -/
def realmDiffers (request : IdentityRequest) (principal : Principal) : Bool :=
  match request.realm, principal.realm with
  | some realm, some other => decide (realm ≠ other)
  | _, _ => false

/-- The principal asked for; where nothing was asked, the given one stands. -/
def principalOr (request : IdentityRequest) (principal : Principal) : Principal where
  user := request.username.getD principal.user
  realm := request.realm.or principal.realm

/-- The request as it is shown to a developer, with the text of the password. -/
def shown (request : IdentityRequest) : String :=
  Shown.record "IdentityRequest"
    [("username", Shown.option Shown.quoted request.username),
     ("realm", Shown.option Shown.quoted request.realm),
     ("password", Shown.option (fun password => Shown.quoted password.expose) request.password)]

end IdentityRequest

/-- The credentials to initiate a security context with. -/
structure ResolvedCredentials (η : Type) where
  /-- What the source knows the credentials by. -/
  handle : η
  /-- The identity they belong to. -/
  principal : Principal
  /-- Whether they were freshly acquired with the password. -/
  reacquired : Bool
  deriving DecidableEq

/-- Converts the handle and keeps the identity. -/
def ResolvedCredentials.map {η θ : Type} (convert : η → θ) (resolved : ResolvedCredentials η) :
    ResolvedCredentials θ :=
  ⟨convert resolved.handle, resolved.principal, resolved.reacquired⟩

/-- Cached credentials that are used as they are. -/
def CachedCredential.resolved {η : Type} (found : CachedCredential η) : ResolvedCredentials η :=
  ⟨found.handle, found.principal, false⟩

/-- What is noted while credentials are chosen. -/
inductive ResolverNote (ν : Type) where
  /-- A note of the source. -/
  | source (entry : ν)
  /-- The place of the cache was derived. -/
  | usingCache (location : CacheLocation)
  /-- The cache could not be read, in a way that a password can repair. -/
  | cacheUnusable (error : AuthError)
  /-- The cache holds credentials. -/
  | cacheFound (principal : Principal)
  /-- The credentials are not those asked for, or have expired. -/
  | cacheUnsuitable (userDiffers realmDiffers expired : Bool)
  /-- An identity that differs is used because no password was given. -/
  | identityDiffers (cached requested : Principal)
  /-- Fresh credentials are being acquired. -/
  | acquiring (principal : Principal)
  /-- Fresh credentials were acquired and stored. -/
  | stored (principal : Principal) (location : CacheLocation)
  deriving DecidableEq

namespace ResolverNote

variable {ν : Type}

/-- What is logged of a note. -/
def logRecord (source : ν → LogRecord) : ResolverNote ν → LogRecord
  | .source entry => source entry
  | usingCache location => location.logRecord
  | cacheUnusable error =>
    ⟨.debug, "no usable cached credentials", [("error", .text error.message)]⟩
  | cacheFound principal =>
    ⟨.debug, "cached credentials found", [("principal", .text principal.render)]⟩
  | cacheUnsuitable userDiffers realmDiffers expired =>
    ⟨.debug, "cached credentials do not satisfy the request",
      [("user_mismatch", .flag userDiffers), ("realm_mismatch", .flag realmDiffers),
       ("expired", .flag expired)]⟩
  | identityDiffers cached requested =>
    ⟨.warn, "cached identity differs from the requested one and no password was given; using cache",
      [("cached", .text cached.render), ("requested", .text requested.render)]⟩
  | acquiring principal =>
    ⟨.debug, "acquiring credentials with provided password",
      [("principal", .text principal.render)]⟩
  | stored principal location =>
    ⟨.debug, "stored fresh credentials",
      [("principal", .text principal.render), ("ccache", .text location.name)]⟩

end ResolverNote

namespace CredentialSource

variable {ω ν η : Type}

/-- Acquires credentials with a password and stores them. Neither step is tried
again, and nothing takes the place of one that fails. -/
def reacquire (source : CredentialSource ω ν η) (location : CacheLocation)
    (principal : Principal) (password : Password) :
    Action ω (ResolverNote ν) (ResolvedCredentials η) := do
  Action.note (.acquiring principal)
  let handle ← (source.acquireWithPassword principal password).mapNotes .source
  (source.store handle location).mapNotes .source
  Action.note (.stored principal location)
  return ⟨handle, principal, true⟩

/-- Goes on from a cache that could not be read. Fresh credentials need a user
and a password, and an error that they can repair. -/
def resolveUnreadable (source : CredentialSource ω ν η) (location : CacheLocation)
    (request : IdentityRequest) (error : AuthError) :
    Action ω (ResolverNote ν) (ResolvedCredentials η) := do
  if error.recoverable then
    Action.note (.cacheUnusable error)
    match request.username, request.password with
    | some user, some password => source.reacquire location ⟨user, request.realm⟩ password
    | _, _ => Action.fail error
  else
    Action.fail error

/-- Goes on from credentials that the cache holds. -/
def resolveFound (source : CredentialSource ω ν η) (location : CacheLocation)
    (request : IdentityRequest) (found : CachedCredential η) :
    Action ω (ResolverNote ν) (ResolvedCredentials η) := do
  let userDiffers := request.userDiffers found.principal
  let realmDiffers := request.realmDiffers found.principal
  if userDiffers || realmDiffers || found.expired then
    let requested := request.principalOr found.principal
    match request.password with
    | some password =>
      Action.note (.cacheUnsuitable userDiffers realmDiffers found.expired)
      source.reacquire location requested password
    | none =>
      if found.expired then
        Action.fail ⟨.credentialsExpired,
          "cached credentials for " ++ found.principal.render ++ " have expired"⟩
      else
        Action.note (.identityDiffers found.principal requested)
        return found.resolved
  else
    return found.resolved

/-- Chooses the credentials of one login. -/
def resolve (source : CredentialSource ω ν η) (env : CacheEnvironment)
    (request : IdentityRequest) : Action ω (ResolverNote ν) (ResolvedCredentials η) := do
  let location ← CacheLocation.locate .usingCache env
  match ← ((source.cached location).mapNotes .source).attempt with
  | .error error => source.resolveUnreadable location request error
  | .ok found =>
    Action.note (.cacheFound found.principal)
    source.resolveFound location request found

/-- The user to authenticate as when the caller named none: the user of the
cached identity, or `login`, the name by which the operating system knows the
user, when the cache gives none. -/
def defaultUsername (source : CredentialSource ω ν η) (env : CacheEnvironment) (login : String) :
    Action ω (ResolverNote ν) String := do
  let read : Action ω (ResolverNote ν) (CachedCredential η) := do
    let location ← CacheLocation.locate .usingCache env
    (source.cached location).mapNotes .source
  match ← read.attempt with
  | .ok found => return found.principal.user
  | .error _ => return login

end CredentialSource

end KerberosLogin
