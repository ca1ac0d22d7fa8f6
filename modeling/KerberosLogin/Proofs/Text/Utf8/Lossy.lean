import KerberosLogin.Proofs.Text.Utf8

/-! # Decoding any bytes

A byte below `0x80` is a character of its own. Whatever stands before it, it neither continues
that nor is taken for a part of a fault. So bytes can be decoded up to such a byte and from it
on, and a text of such bytes is still there after any others.
-/

namespace KerberosLogin

namespace Utf8

theorem le_low_of_lead? {byte : UInt8} {lead : Lead} (hlead : lead? byte = some lead) :
    ∀ interval ∈ lead.expected, 0x80 ≤ interval.low := by
  simp only [lead?] at hlead
  split_ifs at hlead <;> simp only [Option.some.injEq] at hlead <;> subst hlead <;>
    simp [continuation]

/-- The front when a byte follows that continues no character, and others after it. What the
bytes have begun, if they end inside a character, is at fault then. -/
def Front.followedBy (front : Front) (width : Nat) (more : Bytes) : Front :=
  match front with
  | .character char rest => .character char (rest ++ more)
  | .broken total rest => .broken total (rest ++ more)
  | .unfinished => .broken width more

variable {byte : UInt8} {rest : Bytes}

theorem follow_append (hbyte : byte.toNat < 0x80) {expected : List Interval}
    (hexpected : ∀ interval ∈ expected, 0x80 ≤ interval.low) (bits width : Nat) (bytes : Bytes) :
    follow bits width expected (bytes ++ byte :: rest) =
      (follow bits width expected bytes).followedBy (width + bytes.length) (byte :: rest) := by
  induction expected generalizing bits width bytes with
  | nil => rfl
  | cons interval expected ih =>
      obtain ⟨hlow, hexpected⟩ := List.forall_mem_cons.mp hexpected
      cases bytes with
      | nil =>
          have hout : ¬ interval.contains byte = true := by
            rw [Interval.contains_iff]
            omega
          simp [follow, hout, Front.followedBy]
      | cons first bytes =>
          by_cases hfirst : interval.contains first = true
          · have hwidth : width + (first :: bytes).length = width + 1 + bytes.length := by
              rw [List.length_cons]
              omega
            rw [List.cons_append, follow, follow, if_pos hfirst, if_pos hfirst, hwidth]
            exact ih hexpected ..
          · simp [follow, hfirst, Front.followedBy]

theorem front_append (hbyte : byte.toNat < 0x80) (first : UInt8) (bytes : Bytes) :
    front first (bytes ++ byte :: rest) =
      (front first bytes).followedBy (1 + bytes.length) (byte :: rest) := by
  unfold front
  cases hlead : lead? first with
  | none => rfl
  | some lead => exact follow_append hbyte (le_low_of_lead? hlead) ..

theorem lossyChars_cons (first : UInt8) (bytes : Bytes) :
    lossyChars (first :: bytes) = match front first bytes with
      | .character char later => char :: lossyChars later
      | .broken _ later => replacement :: lossyChars later
      | .unfinished => [replacement] := by
  rw [lossyChars]
  split <;> simp_all

/-- Decoding can be broken off before a byte that continues no character. -/
theorem lossyChars_append (hbyte : byte.toNat < 0x80) (bytes : Bytes) :
    lossyChars (bytes ++ byte :: rest) = lossyChars bytes ++ lossyChars (byte :: rest) := by
  induction bytes using lossyChars.induct with
  | case1 => simp [lossyChars]
  | case2 first bytes char later hfront ih =>
      rw [List.cons_append, lossyChars_cons, lossyChars_cons, front_append hbyte, hfront]
      exact congrArg (char :: ·) ih
  | case3 first bytes width later hfront ih =>
      rw [List.cons_append, lossyChars_cons, lossyChars_cons, front_append hbyte, hfront]
      exact congrArg (replacement :: ·) ih
  | case4 first bytes hfront =>
      rw [List.cons_append, lossyChars_cons, lossyChars_cons, front_append hbyte, hfront]
      rfl

theorem lossyChars_flatMap (chars : List Char) :
    lossyChars (chars.flatMap String.utf8EncodeChar) = chars := by
  induction chars with
  | nil => simp [lossyChars]
  | cons char chars ih =>
      cases hchar : String.utf8EncodeChar char with
      | nil => exact absurd hchar String.utf8EncodeChar_ne_nil
      | cons first more =>
          rw [List.flatMap_cons, hchar, List.cons_append, lossyChars_cons,
            front_of_utf8EncodeChar hchar]
          exact congrArg (char :: ·) ih

/-- A text whose first byte continues no character is read as it is, whatever stands before. -/
theorem decodeLossy_append_encode {text : String} (hbyte : byte.toNat < 0x80)
    (htext : encode text = byte :: rest) (bytes : Bytes) :
    decodeLossy (bytes ++ encode text) = decodeLossy bytes ++ text := by
  have hread : lossyChars (encode text) = text.toList := lossyChars_flatMap text.toList
  rw [htext] at hread
  rw [decodeLossy, decodeLossy, htext, lossyChars_append hbyte, hread, String.ofList_append,
    String.ofList_toList]

end Utf8

end KerberosLogin
