import KerberosLogin.SecurityContext

/-! # Scripted sources and providers

A source and a provider that answer from a script, and that keep a list of the
calls that reached them. They stand in for the security subsystem wherever a
client is to be seen at work without one.
-/

namespace KerberosLogin

namespace StandIn

/-- What a scripted cache holds. -/
inductive CacheEntry where
  /-- Reading fails. -/
  | unreadable (error : AuthError)
  /-- Credentials of a principal. -/
  | holding (principal : Principal) (lifetime : Lifetime)

/-- What one step of a scripted context does. -/
inductive ScriptedStep where
  /-- The step fails and leaves the context as it is. -/
  | failing (error : AuthError)
  /-- The step yields its output. The state that follows is given, or goes by
  whether the output is complete. -/
  | yielding (output : StepOutput) (state : Option ContextState)

/-- A call that reached a scripted source or a scripted provider. -/
inductive Event where
  | source (call : SourceCall String)
  | provider (call : ProviderCall String)

/-- The state that scripted sources and providers share. -/
structure Stage where
  /-- The caches by name; of two entries of one name the first counts. -/
  caches : List (String × CacheEntry) := []
  /-- The steps that contexts have not made yet. -/
  steps : List ScriptedStep := []
  /-- The calls made, the earliest first. -/
  events : List Event := []

/-- Adds a call to the list. -/
def Stage.recording (event : Event) (stage : Stage) : Stage :=
  { stage with events := stage.events ++ [event] }

/-- How a scripted source answers. -/
structure SourceScript where
  acquireError : Option AuthError := none
  storeError : Option AuthError := none
  /-- The one password that each principal is given credentials for; without a
  list every password is right. -/
  passwords : Option (List (String × String)) := none
  /-- How long stored credentials remain valid. -/
  freshLifetime : Lifetime := ⟨36000, 0⟩

namespace SourceScript

/-- Begins the handles of credentials that were read from a cache. -/
def cachedTag : String := "cached:"

/-- Begins the handles of credentials that were acquired with a password. -/
def freshTag : String := "fresh:"

/-- Takes the tag of fresh credentials off a handle. -/
def untagged (handle : String) : String :=
  if freshTag.toList.isPrefixOf handle.toList then
    String.ofList (handle.toList.drop freshTag.toList.length)
  else handle

variable (script : SourceScript)

/-- Reads a scripted cache. -/
def readCache (location : CacheLocation) : Action Stage Empty (CachedCredential String) := do
  let stage ← Action.get
  match stage.caches.lookup location.name with
  | none => Action.fail ⟨.credentialsUnavailable, "no ccache at " ++ location.name⟩
  | some (.unreadable error) => Action.fail error
  | some (.holding principal lifetime) =>
    return ⟨cachedTag ++ principal.render, principal, lifetime⟩

/-- Gives out credentials for a password that is right. -/
def acquire (principal : Principal) (password : Password) : Action Stage Empty String :=
  match script.acquireError with
  | some error => Action.fail error
  | none =>
    let identity := principal.render
    let right := match script.passwords with
      | none => true
      | some known => known.lookup identity == some password.expose
    if right then pure (freshTag ++ identity)
    else Action.fail ⟨.acquisitionFailure, "preauthentication failed for " ++ identity⟩

/-- Makes credentials the content of a scripted cache. -/
def store (handle : String) (location : CacheLocation) : Action Stage Empty Unit :=
  match script.storeError with
  | some error => Action.fail error
  | none =>
    let entry := CacheEntry.holding (Principal.parse (untagged handle)) script.freshLifetime
    Action.modify fun stage => { stage with caches := (location.name, entry) :: stage.caches }

/-- The source that answers by a script. -/
def source : CredentialSource Stage Empty String :=
  CredentialSource.observed (fun call => Stage.recording (.source call))
    ⟨readCache, script.acquire, script.store⟩

end SourceScript

/-- How a scripted provider answers. -/
structure ProviderScript where
  /-- The capabilities; without any given the provider has the default ones. -/
  capabilities : Option Capabilities := none
  source : SourceScript := {}
  resolveError : Option AuthError := none
  initiateError : Option AuthError := none
  wrapError : Option AuthError := none
  /-- What wrapping puts before a payload, and what it puts after it. -/
  wrapping : Bytes × Bytes := ([], [])
  unwrapError : Option AuthError := none
  /-- What a protected message must end in. -/
  trailer : Bytes := []

namespace ProviderScript

variable (script : ProviderScript)

/-- Fails if the script says so. -/
def orFail {σ ν α : Type} (error : Option AuthError) (action : Action σ ν α) : Action σ ν α :=
  match error with
  | some error => Action.fail error
  | none => action

/-- Makes the next step of the script. -/
def step : Action (ContextState × Stage) (ResolverNote Empty) StepOutput where
  run := fun (state, stage) =>
    match stage.steps with
    | [] => ⟨.error ⟨.securityContext, "no scripted step left"⟩, (state, stage), []⟩
    | .failing error :: rest => ⟨.error error, (state, { stage with steps := rest }), []⟩
    | .yielding output state' :: rest =>
      let reached := state'.getD (if output.complete then .established else .negotiating)
      ⟨.ok output, (reached, { stage with steps := rest }), []⟩

/-- Puts the scripted bytes around a payload. -/
def wrap (payload : Bytes) : Bytes :=
  script.wrapping.1 ++ payload ++ script.wrapping.2

/-- Takes the trailer off a message. -/
def unwrap (message : Bytes) : Except AuthError Bytes :=
  if script.trailer.isSuffixOf message then
    .ok (message.take (message.length - script.trailer.length))
  else
    .error ⟨.integrityCheck, "missing trailer"⟩

/-- The operations on scripted contexts. -/
def context : SecurityContext Stage (ResolverNote Empty) ContextState where
  state := id
  step _ := step
  wrap payload _ := orFail script.wrapError (pure (script.wrap payload))
  unwrap message := orFail script.unwrapError (Action.ofExcept (script.unwrap message))

/-- The provider that answers by a script. -/
def provider : SecurityProvider Stage (ResolverNote Empty) String ContextState :=
  SecurityProvider.observed (fun call => Stage.recording (.provider call))
    { name := if script.capabilities.isSome then "scripted" else "default-capabilities"
      capabilities := script.capabilities.getD Flags.empty
      resolveCredentials := fun request env =>
        orFail script.resolveError (script.source.source.resolve env request)
      initiate := fun _ _ _ => orFail script.initiateError (pure .uninitiated)
      context := script.context }

end ProviderScript

end StandIn

end KerberosLogin
