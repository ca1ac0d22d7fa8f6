import KerberosLogin.Flags

/-! # Requirements and capabilities

What the client wants a security context to guarantee, and what a security
provider can do beyond the ordinary.
-/

namespace KerberosLogin

/-- Guarantees that can be asked of a security context. -/
def requirementFamily : FlagFamily where
  name := "ContextRequirements"
  members := [("MUTUAL_AUTH", 1), ("DELEGATE", 2), ("EXTENDED_ERROR", 4)]

/-- The guarantees asked of a security context. -/
abbrev Requirements := Flags requirementFamily

namespace Requirements

/-- The server must prove its identity too. -/
def mutualAuth : Requirements := ⟨1⟩

/-- Credentials may be handed on to the server. -/
def delegate : Requirements := ⟨2⟩

/-- Errors are told to the peer in tokens of their own. -/
def extendedError : Requirements := ⟨4⟩

/-- What a login asks for. -/
def handshake : Requirements :=
  (mutualAuth.union extendedError).union delegate

end Requirements

/-- Optional abilities of a security provider. -/
def capabilityFamily : FlagFamily where
  name := "ProviderCapabilities"
  members := [("EMBEDDED_IDENTITY", 1)]

/-- The optional abilities of a security provider. -/
abbrev Capabilities := Flags capabilityFamily

namespace Capabilities

/-- A user, realm and password can be handed over as they are, in place of
resolved credentials. -/
def embeddedIdentity : Capabilities := ⟨1⟩

end Capabilities

end KerberosLogin
