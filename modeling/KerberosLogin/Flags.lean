import KerberosLogin.Text.Shown

/-! # Sets of named flags

A family of flags gives names to some bits of a word. A set may hold bits that
have no name: it can come from a newer peer, and such bits are kept.
-/

namespace KerberosLogin

/-- The names of some bits, in order of definition. -/
structure FlagFamily where
  name : String
  members : List (String × UInt32)

/-- A set of flags of one family. -/
structure Flags (family : FlagFamily) where
  bits : UInt32
  deriving DecidableEq

namespace Flags

variable {family : FlagFamily}

/-- No flag. -/
def empty : Flags family := ⟨0⟩

/-- The bits that have names. -/
def knownBits (family : FlagFamily) : UInt32 :=
  family.members.foldl (fun bits member => bits ||| member.2) 0

/-- The flags in either set. -/
def union (flags other : Flags family) : Flags family :=
  ⟨flags.bits ||| other.bits⟩

/-- The flags of the first set that are not in the second. -/
def without (flags other : Flags family) : Flags family :=
  ⟨flags.bits &&& ~~~other.bits⟩

/-- Whether every flag of the second set is in the first. -/
def contains (flags other : Flags family) : Bool :=
  flags.bits &&& other.bits == other.bits

/-- Drops the bits that have no name. -/
def truncate (flags : Flags family) : Flags family :=
  ⟨flags.bits &&& knownBits family⟩

/-- The set of some bits, if all of them have names. -/
def ofBits? (bits : UInt32) : Option (Flags family) :=
  if bits &&& ~~~knownBits family == 0 then some ⟨bits⟩ else none

/-- Whether no bit is set. -/
def isEmpty (flags : Flags family) : Bool :=
  flags.bits == 0

/-- Whether every bit that has a name is set. -/
def isAll (flags : Flags family) : Bool :=
  flags.contains ⟨knownBits family⟩

/-- The names of the flags in the set. -/
def names (flags : Flags family) : List String :=
  (family.members.filter fun member => flags.contains ⟨member.2⟩).map Prod.fst

/-- A word in hexadecimal. -/
def hexadecimal (word : UInt32) : String :=
  "0x" ++ String.ofList (Nat.toDigits 16 word.toNat)

/-- The set as it is shown to a developer: the names, then the bits that have
none. -/
def shown (flags : Flags family) : String :=
  let unnamed := flags.bits &&& ~~~knownBits family
  let parts := flags.names ++ if unnamed == 0 then [] else [hexadecimal unnamed]
  Shown.call family.name
    (if parts.isEmpty then hexadecimal 0 else " | ".intercalate parts)

end Flags

end KerberosLogin
