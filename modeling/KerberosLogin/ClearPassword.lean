import KerberosLogin.Action
import KerberosLogin.Credentials
import KerberosLogin.Log

/-! # Sending the password

Where a server offers no Kerberos, the password itself can be sent. It travels
as it is, so the connection must be encrypted.
-/

namespace KerberosLogin

namespace ClearPassword

/-- The payload: the password in UTF-8 and a zero byte. -/
def payload (password : Password) : Bytes :=
  Utf8.encode password.expose ++ [0]

/-- What is logged of a payload. Its size is all that may be told. -/
def logRecord (size : Nat) : LogRecord :=
  ⟨.debug, "building clear password auth response", [("payload_len", .count size)]⟩

/-- Builds the payload and takes a note of its size. -/
def respond {σ ν : Type} (entry : Nat → ν) (password : Password) : Action σ ν Bytes := do
  Action.note (entry (payload password).length)
  return payload password

end ClearPassword

end KerberosLogin
