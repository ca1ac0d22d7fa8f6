import KerberosLogin.Gssapi.Mechanism

/-! # Cached credentials through GSSAPI

Reading goes through the default cache of the mechanism, which follows the
environment of the process. A location that was derived from any other
environment is not what would be read, and is refused, for reading and for
storing alike.
-/

namespace KerberosLogin

namespace Gssapi

namespace Mechanism

variable {ω μ η ξ γ : Type} (library : Mechanism ω μ η ξ γ)

/-- The set that holds Kerberos alone. -/
def kerberosSet {ν : Type} : Action ω ν μ := do
  let set ← Action.ofCall (Fault.toError .securityContext "failed to create OID set")
    library.emptySet
  Action.ofCall (Fault.toError .securityContext "failed to add Kerberos mechanism")
    (library.addKerberos set)

/-- Refuses a location other than the default one of the process. -/
def ensureReadable (processEnv : CacheEnvironment) (location : CacheLocation) :
    Action ω CacheLocation Unit := do
  let default ← CacheLocation.locate id processEnv
  if location = default then
    return ()
  else
    Action.fail ⟨.configuration,
      "credential cache " ++ location.name ++ " differs from the GSSAPI default " ++ default.name
        ++ "; set " ++ CacheLocation.overrideVariable ++ " in the process environment instead"⟩

/-- What it means that no credentials could be acquired from a cache. -/
def acquireError (location : CacheLocation) (fault : Fault) : AuthError :=
  if fault.routine = Fault.credentialsExpired then
    fault.toError .credentialsExpired ("credentials in " ++ location.name ++ " expired")
  else
    fault.toError .credentialsUnavailable ("no credentials in " ++ location.name)

/-- Reads the default cache. -/
def cached (processEnv : CacheEnvironment) (location : CacheLocation) :
    Action ω CacheLocation (CachedCredential η) := do
  ensureReadable processEnv location
  let set ← library.kerberosSet
  let handle ← Action.ofCall (acquireError location) (library.acquire set)
  let info ← Action.ofCall
    (Fault.toError .credentialsUnavailable "unable to inspect cached credentials")
    (library.inspect handle)
  return ⟨handle, Principal.parse info.name, info.lifetime⟩

/-- Acquires credentials with a password. -/
def acquireFresh (principal : Principal) (password : Password) : Action ω CacheLocation η := do
  let identity := principal.render
  let name ← Action.ofCall (Fault.toError .acquisitionFailure ("invalid principal " ++ identity))
    (library.importName (Utf8.encode identity))
  let set ← library.kerberosSet
  Action.ofCall
    (Fault.toError .acquisitionFailure ("unable to acquire credentials for " ++ identity))
    (library.acquireWithPassword name password set)

/-- Stores credentials into the default cache. -/
def store (processEnv : CacheEnvironment) (handle : η) (location : CacheLocation) :
    Action ω CacheLocation Unit := do
  ensureReadable processEnv location
  Action.ofCall
    (Fault.toError .acquisitionFailure ("unable to store credentials into " ++ location.name))
    (library.storeInto handle location.name)

/-- The source over the mechanism, in a process with a given environment. Its
notes are the locations that it derives. -/
def source (processEnv : CacheEnvironment) : CredentialSource ω CacheLocation η where
  cached := library.cached processEnv
  acquireWithPassword := library.acquireFresh
  store := library.store processEnv

end Mechanism

end Gssapi

end KerberosLogin
