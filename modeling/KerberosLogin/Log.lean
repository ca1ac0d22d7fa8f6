import KerberosLogin.Text.Shown

/-! # Log records

What a log line consists of. The components of the library say what they note
in types of their own; a note becomes a log record only when it is written.
-/

namespace KerberosLogin

/-- How much detail a reader must ask for to see a record. -/
inductive Level where
  | trace
  | debug
  | warn
  deriving DecidableEq

/-- The level's name. -/
def Level.name : Level → String
  | trace => "TRACE"
  | debug => "DEBUG"
  | warn => "WARN"

/-- The value of a field of a log record. -/
inductive FieldValue where
  | text (value : String)
  | flag (value : Bool)
  | count (value : Nat)
  deriving DecidableEq

/-- One line of the log. -/
structure LogRecord where
  level : Level
  text : String
  fields : List (String × FieldValue)
  deriving DecidableEq

end KerberosLogin
