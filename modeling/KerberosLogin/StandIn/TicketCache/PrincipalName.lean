import KerberosLogin.Text.Cut

/-! # Names of principals

To Kerberos a principal is a list of components and a realm. Written down, the
components are joined by `/` and the realm follows after an `@`; a backslash takes
its meaning from a character that would separate parts, and stands before a letter
for a character that does not show. A name is written in one way only, but a reader
takes a backslash before any character.
-/

namespace KerberosLogin

namespace StandIn

namespace TicketCache

/-- The name of a principal. -/
structure PrincipalName where
  components : List String
  realm : String
  deriving DecidableEq

namespace PrincipalName

/-- The realm of principals that name none. -/
def defaultRealm : String := "EXAMPLE.COM"

/-- The name that a plain text gives, in which no character is quoted. The realm
begins after the last `@`. -/
def ofPlain (text : String) : PrincipalName :=
  let (name, realm) := ((Cut.last? '@' text.toList).map fun (name, realm) =>
    (name, String.ofList realm)).getD (text.toList, defaultRealm)
  ⟨(name.splitOn '/').map String.ofList, realm⟩

/-- The ticket-granting server of a realm. -/
def grantingServer (realm : String) : PrincipalName :=
  ⟨["krbtgt", realm], realm⟩

/-- Whether a principal stands for a setting of a cache. Such a principal has nothing to
offer but its name. -/
def isSetting (name : PrincipalName) : Bool :=
  name.realm = "X-CACHECONF:" && name.components.head? = some "krb5_ccache_conf_data"

/-- How a character of a component or a realm is written. -/
def quote : Char → List Char
  | '\\' => ['\\', '\\']
  | '/' => ['\\', '/']
  | '@' => ['\\', '@']
  | '\t' => ['\\', 't']
  | '\n' => ['\\', 'n']
  | '\x08' => ['\\', 'b']
  | '\x00' => ['\\', '0']
  | char => [char]

/-- What a character stands for after a backslash. -/
def unquote : Char → Char
  | 't' => '\t'
  | 'n' => '\n'
  | 'b' => '\x08'
  | '0' => '\x00'
  | char => char

/-- How a component or a realm is written. -/
def quoted (part : String) : List Char :=
  part.toList.flatMap quote

/-- The written form. -/
def render (name : PrincipalName) : String :=
  String.ofList (['/'].intercalate (name.components.map quoted) ++ '@' :: quoted name.realm)

/-- What a written name is made of. -/
inductive Token where
  /-- A character of a component or of the realm. -/
  | char (value : Char)
  | slash
  | atSign
  deriving DecidableEq

/-- The tokens of a written name. A backslash at the end quotes nothing. -/
def tokens? : List Char → Option (List Token)
  | [] => some []
  | ['\\'] => none
  | '\\' :: char :: rest => (tokens? rest).map (.char (unquote char) :: ·)
  | '/' :: rest => (tokens? rest).map (.slash :: ·)
  | '@' :: rest => (tokens? rest).map (.atSign :: ·)
  | char :: rest => (tokens? rest).map (.char char :: ·)

/-- The characters among some tokens. -/
def textOf (tokens : List Token) : String :=
  String.ofList (tokens.filterMap fun | .char value => some value | _ => none)

/-- The name that some tokens make. The realm must not be divided. -/
def ofTokens? (tokens : List Token) : Option PrincipalName :=
  let components := ((tokens.takeWhile (· ≠ .atSign)).splitOn .slash).map textOf
  match tokens.dropWhile (· ≠ .atSign) with
  | [] => some ⟨components, defaultRealm⟩
  | _ :: realm =>
    if realm.contains .slash || realm.contains .atSign then none
    else some ⟨components, textOf realm⟩

/-- Reads the written form. It ends at the first NUL. -/
def parse? (text : String) : Option PrincipalName :=
  (tokens? (text.toList.takeWhile (· ≠ '\x00'))).bind ofTokens?

end PrincipalName

end TicketCache

end StandIn

end KerberosLogin
