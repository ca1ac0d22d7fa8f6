import KerberosLogin.Text.Shown

/-! # Principals

A principal is a user, perhaps in a realm. Written down, the two parts are
joined by an `@`; read back, they are split at the first one. A realm may
therefore hold further `@`s, and a user that holds one does not survive being
written.
-/

namespace KerberosLogin

/-- An identity, split into user and realm. -/
structure Principal where
  user : String
  realm : Option String
  deriving DecidableEq

namespace Principal

/-- The written form. -/
def render (principal : Principal) : String :=
  match principal.realm with
  | some realm => principal.user ++ "@" ++ realm
  | none => principal.user

/-- The characters before the first `@`, and those after it if there is one. -/
def split : List Char → List Char × Option (List Char)
  | [] => ([], none)
  | char :: rest =>
    if char = '@' then ([], some rest)
    else
      let (user, realm) := split rest
      (char :: user, realm)

/-- Reads the written form. Every text is some principal's. -/
def parse (identity : String) : Principal :=
  let (user, realm) := split identity.toList
  ⟨String.ofList user, realm.map String.ofList⟩

/-- The principal as it is shown to a developer. -/
def shown (principal : Principal) : String :=
  Shown.record "Principal"
    [("user", Shown.quoted principal.user),
     ("realm", Shown.option Shown.quoted principal.realm)]

end Principal

end KerberosLogin
