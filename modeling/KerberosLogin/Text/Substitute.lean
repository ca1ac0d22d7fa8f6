/-! # Replacing a text within a text

Each occurrence of a text, from the front on, gives way to another one.
-/

namespace KerberosLogin

namespace Substitute

/-- Replaces `old` by `new` throughout a text. There is nothing to replace if `old` is
empty. -/
def all (old new text : List Char) : List Char :=
  match text with
  | [] => []
  | char :: rest =>
    if old ≠ [] ∧ old.isPrefixOf (char :: rest) then
      new ++ all old new (rest.drop (old.length - 1))
    else char :: all old new rest
termination_by text.length

end Substitute

end KerberosLogin
