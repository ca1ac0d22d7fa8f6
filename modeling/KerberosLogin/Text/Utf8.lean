/-! # Text as bytes

Text travels as UTF-8. Encoding is the standard library's; decoding is stated
here because a refused byte string must be diagnosed by the position and the
width of its first fault. A fault is the longest run of bytes that begins a
character and cannot go on, or one byte that begins none. When the bytes end
inside a character that was sound so far, the fault is the end itself.
-/

namespace KerberosLogin

/-- Bytes as they travel between the parties. -/
abbrev Bytes := List UInt8

namespace Utf8

/-- The bytes of a text. -/
def encode (text : String) : Bytes :=
  text.toList.flatMap String.utf8EncodeChar

/-- An interval of byte values, both ends included. -/
structure Interval where
  low : Nat
  high : Nat

/-- Membership of a byte in an interval. -/
def Interval.contains (interval : Interval) (byte : UInt8) : Bool :=
  decide (interval.low ≤ byte.toNat) && decide (byte.toNat ≤ interval.high)

/-- The values of a byte that continues a character, where no tighter bound
applies. -/
def continuation : Interval := ⟨0x80, 0xBF⟩

/-- What the first byte of a character says: its own contribution to the code
point, and the intervals the bytes after it must lie in. -/
structure Lead where
  bits : Nat
  expected : List Interval

/-- The table of well-formed first bytes. The second byte is bounded more
tightly after `0xE0` and `0xF0`, where a smaller value has a shorter form, after
`0xED`, where a larger one is a surrogate, and after `0xF4`, where a larger one
lies beyond the last code point. -/
def lead? (byte : UInt8) : Option Lead :=
  let value := byte.toNat
  if value < 0x80 then some ⟨value, []⟩
  else if value < 0xC2 then none
  else if value < 0xE0 then some ⟨value - 0xC0, [continuation]⟩
  else if value = 0xE0 then some ⟨0, [⟨0xA0, 0xBF⟩, continuation]⟩
  else if value = 0xED then some ⟨0xD, [⟨0x80, 0x9F⟩, continuation]⟩
  else if value < 0xF0 then some ⟨value - 0xE0, [continuation, continuation]⟩
  else if value = 0xF0 then some ⟨0, [⟨0x90, 0xBF⟩, continuation, continuation]⟩
  else if value < 0xF4 then some ⟨value - 0xF0, [continuation, continuation, continuation]⟩
  else if value = 0xF4 then some ⟨4, [⟨0x80, 0x8F⟩, continuation, continuation]⟩
  else none

/-- What stands at the front of a nonempty byte string. -/
inductive Front where
  /-- A whole character, and the bytes after it. -/
  | character (char : Char) (rest : Bytes)
  /-- Bytes that begin no character, how many, and the bytes after them. -/
  | broken (width : Nat) (rest : Bytes)
  /-- The bytes end inside a character. -/
  | unfinished

/-- Reads the expected continuation bytes; `width` bytes of the character have
been read and contribute `bits`. -/
def follow (bits width : Nat) : List Interval → Bytes → Front
  | [], rest => .character (Char.ofNat bits) rest
  | _ :: _, [] => .unfinished
  | interval :: expected, byte :: rest =>
    if interval.contains byte then
      follow (bits * 64 + (byte.toNat - 0x80)) (width + 1) expected rest
    else
      .broken width (byte :: rest)

/-- The front of the byte string that starts with `byte`. -/
def front (byte : UInt8) (rest : Bytes) : Front :=
  match lead? byte with
  | none => .broken 1 rest
  | some lead => follow lead.bits 1 lead.expected rest

/-- The bytes that a front leaves for later. -/
def Front.rest : Front → Bytes
  | .character _ rest => rest
  | .broken _ rest => rest
  | .unfinished => []

theorem follow_rest_length (bits width : Nat) (expected : List Interval) (bytes : Bytes) :
    (follow bits width expected bytes).rest.length ≤ bytes.length := by
  induction expected generalizing bits width bytes with
  | nil => simp [follow, Front.rest]
  | cons interval expected ih =>
    cases bytes with
    | nil => simp [follow, Front.rest]
    | cons byte rest =>
      simp only [follow]
      split
      · exact Nat.le_succ_of_le (ih ..)
      · simp [Front.rest]

theorem front_rest_length (byte : UInt8) (rest : Bytes) :
    (front byte rest).rest.length ≤ rest.length := by
  unfold front
  split
  · simp [Front.rest]
  · exact follow_rest_length ..

/-- The first place where bytes stop being UTF-8. -/
structure Fault where
  /-- How many bytes of well-formed characters stand before the fault. -/
  index : Nat
  /-- How many bytes are at fault; absent when the bytes end inside a character. -/
  width : Option Nat
  deriving DecidableEq

/-- The fault in words. -/
def Fault.message (fault : Fault) : String :=
  match fault.width with
  | some width => s!"invalid utf-8 sequence of {width} bytes from index {fault.index}"
  | none => s!"incomplete utf-8 byte sequence from index {fault.index}"

/-- The characters of bytes that begin at `index` of the whole, or the first
fault among them. -/
def decodeFrom (index : Nat) (bytes : Bytes) : Except Fault (List Char) :=
  match bytes with
  | [] => .ok []
  | byte :: rest =>
    match _hfront : front byte rest with
    | .character char rest' => (decodeFrom (index + char.utf8Size) rest').map (char :: ·)
    | .broken width _ => .error ⟨index, some width⟩
    | .unfinished => .error ⟨index, none⟩
termination_by bytes.length
decreasing_by
  have hrest := front_rest_length byte rest
  rw [_hfront] at hrest
  exact Nat.lt_succ_of_le hrest

/-- The text of well-formed bytes, or their first fault. -/
def decode (bytes : Bytes) : Except Fault String :=
  (decodeFrom 0 bytes).map String.ofList

/-- Stands for bytes that cannot be read. -/
def replacement : Char := '\uFFFD'

/-- The characters of any bytes, with one replacement character for each fault. -/
def lossyChars (bytes : Bytes) : List Char :=
  match bytes with
  | [] => []
  | byte :: rest =>
    match _hfront : front byte rest with
    | .character char rest' => char :: lossyChars rest'
    | .broken _ rest' => replacement :: lossyChars rest'
    | .unfinished => [replacement]
termination_by bytes.length
decreasing_by
  all_goals
    have hrest := front_rest_length byte rest
    rw [_hfront] at hrest
    exact Nat.lt_succ_of_le hrest

/-- The text of any bytes, with one replacement character for each fault. -/
def decodeLossy (bytes : Bytes) : String :=
  String.ofList (lossyChars bytes)

end Utf8

end KerberosLogin
