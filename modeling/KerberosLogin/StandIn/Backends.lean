import KerberosLogin.Backend
import KerberosLogin.StandIn.AccountServer.Package
import KerberosLogin.StandIn.TicketCache.Mechanism

/-! # Backends over the stand-ins

Both backends in one process, GSSAPI over a mechanism in memory and Negotiate over
a package in memory. They share the files of the process.
-/

namespace KerberosLogin

namespace StandIn

/-- GSSAPI contexts over the stand-in. -/
abbrev GssapiContext : Type :=
  Gssapi.Context TicketCache.Negotiation

/-- Negotiate contexts over the stand-in. -/
abbrev NegotiateContext : Type :=
  Negotiate.Context Unit AccountServer.Negotiation

/-- The GSSAPI provider over the stand-in. -/
def gssapi (processEnv : CacheEnvironment) :
    SecurityProvider TicketCache.Host Gssapi.Note TicketCache.Handle GssapiContext :=
  TicketCache.mechanism.provider processEnv

/-- The Negotiate provider over the stand-in. -/
def negotiate : SecurityProvider TicketCache.Host Negotiate.Note Empty NegotiateContext :=
  AccountServer.package.provider

/-- A provider over the stand-ins, whatever its notes, credentials and contexts
are. -/
structure Site where
  {Note : Type}
  {Credential : Type}
  {Context : Type}
  provider : SecurityProvider TicketCache.Host Note Credential Context
  /-- The provider as it is shown to a developer. -/
  shown : String
  /-- A context as it is shown to a developer. -/
  shownContext : Context → String

namespace Site

/-- The provider of a backend itself. -/
def direct (backend : Backend) (processEnv : CacheEnvironment) : Site :=
  match backend with
  | .gssapi => ⟨StandIn.gssapi processEnv, backend.providerName, Gssapi.Context.shown⟩
  | .negotiate => ⟨StandIn.negotiate, backend.providerName, Negotiate.Context.shown⟩

/-- The provider that hands its calls on to a backend. -/
def chosen (backend : Backend) (processEnv : CacheEnvironment) : Site :=
  ⟨backend.provider (gssapi processEnv) negotiate, backend.shown,
    Backend.shownContext Gssapi.Context.shown Negotiate.Context.shown⟩

end Site

/-- A client over the backend that a build uses on its platform. -/
def nativeClient (build : Build) (credentials : Credentials) (processEnv : CacheEnvironment) :
    Client TicketCache.Host (Gssapi.Note ⊕ Negotiate.Note) TicketCache.Handle
      (GssapiContext ⊕ NegotiateContext) :=
  build.nativeClient (gssapi processEnv) negotiate credentials processEnv

end StandIn

end KerberosLogin
