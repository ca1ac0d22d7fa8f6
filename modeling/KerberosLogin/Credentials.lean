import KerberosLogin.Text.Shown

/-! # The caller's credentials

A caller may name a user and may give a password. Without a user the identity in
the credential cache is taken as it is; without a password no fresh credentials
can be acquired. The password is a type of its own so that showing a value that
holds one never shows the secret.
-/

namespace KerberosLogin

/-- A secret text. -/
structure Password where
  /-- The text, for handing it to the security provider. -/
  expose : String
  deriving DecidableEq

/-- A password is never shown. -/
def Password.shown (_ : Password) : String :=
  Shown.redacted

/-- The identity a caller supplies. -/
structure Credentials where
  username : Option String := none
  password : Option Password := none
  deriving DecidableEq

namespace Credentials

/-- Use whatever the credential cache holds. -/
def fromCache : Credentials := ⟨none, none⟩

/-- Authenticate as a user, with a password for when the cache does not match. -/
def ofPassword (username password : String) : Credentials :=
  ⟨some username, some ⟨password⟩⟩

/-- Names the user. -/
def withUsername (credentials : Credentials) (username : String) : Credentials :=
  { credentials with username := some username }

/-- Gives the password. -/
def withPassword (credentials : Credentials) (password : String) : Credentials :=
  { credentials with password := some ⟨password⟩ }

/-- Whether a password was given. -/
def hasPassword (credentials : Credentials) : Bool :=
  credentials.password.isSome

/-- The credentials as they are shown to a developer. -/
def shown (credentials : Credentials) : String :=
  Shown.record "KerberosCredentials"
    [("username", Shown.option Shown.quoted credentials.username),
     ("password", Shown.option (fun _ => Shown.quoted Shown.redacted) credentials.password)]

end Credentials

end KerberosLogin
