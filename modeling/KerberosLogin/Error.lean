import KerberosLogin.Text.Shown

/-! # Authentication errors

Every failure of a login has one of nine kinds and a diagnostic in words. The
kind alone decides how the failure is reported and whether a password could
still repair it.
-/

namespace KerberosLogin

/-- What went wrong, as far as the reaction to it is concerned. -/
inductive ErrorKind where
  /-- The server's authentication packet cannot be read. -/
  | malformedPacket
  /-- The client is configured in a way that cannot work. -/
  | configuration
  /-- No usable cached credentials were found. -/
  | credentialsUnavailable
  /-- The cached credentials have run out. -/
  | credentialsExpired
  /-- Credentials could not be acquired with the given password. -/
  | acquisitionFailure
  /-- The security context could not be negotiated. -/
  | securityContext
  /-- A protected message failed verification. -/
  | integrityCheck
  /-- An operation was called out of order. -/
  | protocolMisuse
  /-- The method or the backend is not supported. -/
  | unsupportedMethod
  deriving DecidableEq

/-- How the connection reports a failure. -/
inductive ErrorClass where
  /-- The exchange with the server failed. -/
  | interface
  /-- The client was misconfigured or misused. -/
  | programming
  deriving DecidableEq

/-- The name of the class. -/
def ErrorClass.name : ErrorClass → String
  | interface => "Interface"
  | programming => "Programming"

namespace ErrorKind

/-- All kinds. -/
def all : List ErrorKind :=
  [malformedPacket, configuration, credentialsUnavailable, credentialsExpired,
   acquisitionFailure, securityContext, integrityCheck, protocolMisuse, unsupportedMethod]

/-- The kind's name. -/
def name : ErrorKind → String
  | malformedPacket => "MalformedPacket"
  | configuration => "Configuration"
  | credentialsUnavailable => "CredentialsUnavailable"
  | credentialsExpired => "CredentialsExpired"
  | acquisitionFailure => "AcquisitionFailure"
  | securityContext => "SecurityContext"
  | integrityCheck => "IntegrityCheck"
  | protocolMisuse => "ProtocolMisuse"
  | unsupportedMethod => "UnsupportedMethod"

/-- The kind of a name. -/
def ofName? (name : String) : Option ErrorKind :=
  all.find? fun kind => kind.name = name

/-- The words that introduce the diagnostic. -/
def heading : ErrorKind → String
  | malformedPacket => "invalid authentication data"
  | configuration => "configuration error"
  | credentialsUnavailable => "unable to retrieve cached credentials"
  | credentialsExpired => "credentials have expired"
  | acquisitionFailure => "unable to acquire credentials with the given password"
  | securityContext => "security context error"
  | integrityCheck => "unable to unwrap server message"
  | protocolMisuse => "protocol misuse"
  | unsupportedMethod => "unsupported authentication method"

/-- Fresh credentials can make up for missing and for expired ones, and for
nothing else: a failed cryptographic round cannot succeed without starting
over. -/
def recoverable : ErrorKind → Bool
  | credentialsUnavailable => true
  | credentialsExpired => true
  | _ => false

/-- The class that a failure of this kind is reported in. -/
def errorClass : ErrorKind → ErrorClass
  | configuration => .programming
  | acquisitionFailure => .programming
  | protocolMisuse => .programming
  | unsupportedMethod => .programming
  | malformedPacket => .interface
  | credentialsUnavailable => .interface
  | credentialsExpired => .interface
  | securityContext => .interface
  | integrityCheck => .interface

end ErrorKind

/-- A failure of a login. -/
structure AuthError where
  kind : ErrorKind
  diagnostic : String
  deriving DecidableEq

namespace AuthError

/-- The failure in words. -/
def message (error : AuthError) : String :=
  error.kind.heading ++ ": " ++ error.diagnostic

/-- Whether acquiring credentials with a password can repair the failure. -/
def recoverable (error : AuthError) : Bool :=
  error.kind.recoverable

/-- Whether the failure always ends the handshake. -/
def fatal (error : AuthError) : Bool :=
  !error.recoverable

/-- The class the failure is reported in. -/
def errorClass (error : AuthError) : ErrorClass :=
  error.kind.errorClass

/-- The error as it is shown to a developer. -/
def shown (error : AuthError) : String :=
  Shown.call error.kind.name (Shown.quoted error.diagnostic)

end AuthError

end KerberosLogin
