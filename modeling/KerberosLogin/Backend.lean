import KerberosLogin.Gssapi.Provider
import KerberosLogin.Handshake.Client
import KerberosLogin.Negotiate.Provider

/-! # Choosing a backend

A build has one of the two backends or both. The one to use is picked once, by
the platform or by name; a client over the chosen provider is then the same as
one over the backend itself. Credentials are resolved by GSSAPI alone, so the
only credentials that can go astray are those handed to Negotiate.
-/

namespace KerberosLogin

/-- A way to negotiate security contexts. -/
inductive Backend where
  | gssapi
  | negotiate
  deriving DecidableEq

/-- The backends that a build has. -/
inductive Backends where
  | gssapiOnly
  | negotiateOnly
  | both
  deriving DecidableEq

/-- Whether a build has a backend. -/
def Backends.has (backends : Backends) (backend : Backend) : Bool :=
  match backends, backend with
  | gssapiOnly, .gssapi => true
  | negotiateOnly, .negotiate => true
  | both, _ => true
  | _, _ => false

/-- What a build is for, and what it has. -/
structure Build where
  windows : Bool
  backends : Backends
  deriving DecidableEq

namespace Build

/-- The backend of the platform: Negotiate on Windows, GSSAPI elsewhere, and the
other one where that is missing. -/
def platformDefault (build : Build) : Backend :=
  if build.windows && build.backends.has .negotiate then .negotiate
  else if build.backends.has .gssapi then .gssapi
  else .negotiate

/-- The backend of a name. -/
def byName (build : Build) (name : String) : Except AuthError Backend :=
  if name = "gssapi" && build.backends.has .gssapi then .ok .gssapi
  else if name = "sspi" && build.backends.has .negotiate then .ok .negotiate
  else .error ⟨.unsupportedMethod,
    s!"security provider '{name}' is not available in this build"⟩

end Build

namespace Backend

variable {ω ν₁ ν₂ κ χ₁ χ₂ α : Type}

/-- The backend as it is shown to a developer, around what it holds. -/
def shownAround (backend : Backend) (shown : String) : String :=
  match backend with
  | gssapi => Shown.call "Gssapi" shown
  | negotiate => Shown.call "Negotiate" shown

/-- The provider of a backend itself as it is shown to a developer. -/
def providerName : Backend → String
  | gssapi => "GssapiProvider"
  | negotiate => "NegotiateProvider"

/-- The chosen provider as it is shown to a developer. -/
def shown (backend : Backend) : String :=
  backend.shownAround backend.providerName

/-- A context as it is shown to a developer, around what its backend shows. -/
def shownContext (first : χ₁ → String) (second : χ₂ → String) : χ₁ ⊕ χ₂ → String
  | .inl context => gssapi.shownAround (first context)
  | .inr context => negotiate.shownAround (second context)

/-- An action on the context of either backend. -/
def either (first : Action (χ₁ × ω) ν₁ α) (second : Action (χ₂ × ω) ν₂ α) :
    Action ((χ₁ ⊕ χ₂) × ω) (ν₁ ⊕ ν₂) α where
  run
    | (.inl context, shared) =>
      let outcome := first.run (context, shared)
      ⟨outcome.result, (.inl outcome.state.1, outcome.state.2), outcome.notes.map .inl⟩
    | (.inr context, shared) =>
      let outcome := second.run (context, shared)
      ⟨outcome.result, (.inr outcome.state.1, outcome.state.2), outcome.notes.map .inr⟩

/-- The operations on contexts of either backend. -/
def context (gssapi : SecurityContext ω ν₁ χ₁) (negotiate : SecurityContext ω ν₂ χ₂) :
    SecurityContext ω (ν₁ ⊕ ν₂) (χ₁ ⊕ χ₂) where
  state := Sum.elim gssapi.state negotiate.state
  step input := either (gssapi.step input) (negotiate.step input)
  wrap payload encrypt := either (gssapi.wrap payload encrypt) (negotiate.wrap payload encrypt)
  unwrap message := either (gssapi.unwrap message) (negotiate.unwrap message)

/-- A credential as Negotiate takes it. -/
def negotiateCredential : InitiatorCredential κ → Except AuthError (InitiatorCredential Empty)
  | .resolved _ => .error ⟨.unsupportedMethod,
      "the Negotiate provider cannot use credentials resolved by another backend"⟩
  | .embedded identity => .ok (.embedded identity)
  | .default => .ok .default

/-- Yields a context of the first backend. -/
def first (action : Action ω ν₁ χ₁) : Action ω (ν₁ ⊕ ν₂) (χ₁ ⊕ χ₂) :=
  .inl <$> action.mapNotes .inl

/-- Yields a context of the second backend. -/
def second (action : Action ω ν₂ χ₂) : Action ω (ν₁ ⊕ ν₂) (χ₁ ⊕ χ₂) :=
  .inr <$> action.mapNotes .inr

/-- The provider that hands each call on to the chosen backend. -/
def provider (backend : Backend) (gssapi : SecurityProvider ω ν₁ κ χ₁)
    (negotiate : SecurityProvider ω ν₂ Empty χ₂) :
    SecurityProvider ω (ν₁ ⊕ ν₂) κ (χ₁ ⊕ χ₂) where
  name := match backend with
    | .gssapi => gssapi.name
    | .negotiate => negotiate.name
  capabilities := match backend with
    | .gssapi => gssapi.capabilities
    | .negotiate => negotiate.capabilities
  resolveCredentials request env := match backend with
    | .gssapi => (gssapi.resolveCredentials request env).mapNotes .inl
    | .negotiate => ResolvedCredentials.map Empty.elim <$>
        (negotiate.resolveCredentials request env).mapNotes .inr
  initiate target credential requirements := match backend with
    | .gssapi => first (gssapi.initiate target credential requirements)
    | .negotiate => do
      let credential ← Action.ofExcept (negotiateCredential credential)
      second (negotiate.initiate target credential requirements)
  context := context gssapi.context negotiate.context

end Backend

/-- A client over the platform's own backend, in the environment of the process. -/
def Build.nativeClient {ω ν₁ ν₂ κ χ₁ χ₂ : Type} (build : Build)
    (gssapi : SecurityProvider ω ν₁ κ χ₁) (negotiate : SecurityProvider ω ν₂ Empty χ₂)
    (credentials : Credentials) (processEnv : CacheEnvironment) :
    Client ω (ν₁ ⊕ ν₂) κ (χ₁ ⊕ χ₂) :=
  ⟨build.platformDefault.provider gssapi negotiate, credentials, processEnv⟩

end KerberosLogin
