import KerberosLogin.Text.Cut

/-! # Names of users

A user is an account in a domain. The account can be named alone, or together with its
domain: as `DOMAIN\name`, as `name@suffix`, or with the domain beside the name. Domain
and suffix mean the same.
-/

namespace KerberosLogin

namespace StandIn

namespace AccountServer

/-- The name of a user. -/
structure UserName where
  account : String
  /-- The domain; empty if the name gives none. -/
  domain : String
  deriving DecidableEq

namespace UserName

/-- Whether a part of a name is free of the characters that separate parts. -/
def isPlain (part : List Char) : Bool :=
  !part.contains '\\' && !part.contains '@'

/-- Reads a name that stands alone: `DOMAIN\name`, `name@suffix`, or an account. The
name before a suffix may hold further `@`s. -/
def readAlone? (name : List Char) : Option UserName :=
  match Cut.first? '\\' name with
  | some (domain, account) =>
    if isPlain domain && isPlain account then some ⟨String.ofList account, String.ofList domain⟩
    else none
  | none =>
    match Cut.last? '@' name with
    | some (account, suffix) => some ⟨String.ofList account, String.ofList suffix⟩
    | none => some ⟨String.ofList name, ""⟩

/-- Reads a name with a domain beside it. With a domain that is not empty neither may
hold a character that separates parts. -/
def read? (name domain : String) : Option UserName :=
  if domain.isEmpty then readAlone? name.toList
  else if isPlain name.toList && isPlain domain.toList then some ⟨name, domain⟩
  else none

/-- Reads a name again as it was taken apart. A suffix does not come back, so an
account with an `@` fails beside a domain, and without one it is taken apart further. -/
def reread? (name : UserName) : Option UserName :=
  if name.domain.isEmpty then readAlone? name.account.toList
  else if name.account.toList.contains '@' then none
  else some name

end UserName

end AccountServer

end StandIn

end KerberosLogin
