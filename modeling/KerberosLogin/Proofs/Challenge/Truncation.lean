import KerberosLogin.Proofs.Challenge.LeftmostFault

/-! # Packets that are cut short or run on

The packet of a challenge tells its own length, so no other packet begins with it. Where it
is cut decides how the rest is diagnosed, and nothing else does: a field that is incomplete
is never looked at as text, and a cut inside a character is a cut like any other.
-/

namespace KerberosLogin

namespace Challenge

/-- How a packet with texts of two sizes is diagnosed when its end is missing and when more
follows it. -/
structure Delimited (packet : Bytes) (principal realm : Nat) : Prop where
  length : packet.length = 4 + principal + realm
  withoutPrincipalLength : ∀ kept < 2, (decode (packet.take kept)).mapError Fault.toError =
    .error ⟨.malformedPacket, "missing service principal length"⟩
  withinPrincipal : ∀ kept, 2 ≤ kept → kept < 2 + principal →
    (decode (packet.take kept)).mapError Fault.toError = .error ⟨.malformedPacket,
      s!"service principal length {principal} exceeds remaining {kept - 2} bytes"⟩
  withoutRealmLength : ∀ kept, 2 + principal ≤ kept → kept < 4 + principal →
    (decode (packet.take kept)).mapError Fault.toError =
      .error ⟨.malformedPacket, "missing realm length"⟩
  withinRealm : ∀ kept, 4 + principal ≤ kept → kept < packet.length →
    (decode (packet.take kept)).mapError Fault.toError = .error ⟨.malformedPacket,
      s!"realm length {realm} exceeds remaining {kept - 4 - principal} bytes"⟩
  trailing : ∀ rest ≠ [], (decode (packet ++ rest)).mapError Fault.toError =
    .error ⟨.malformedPacket, s!"{rest.length} unexpected trailing bytes after realm"⟩
  alone : ∀ other challenge, decode other = .ok challenge →
    other <+: packet ∨ packet <+: other → other = packet

variable {field : Field} {text : String} {written packet : Bytes} {challenge : Challenge}
  {kept : Nat}

theorem length_of_writeField (hwrite : writeField field text = .ok written) :
    written.length = 2 + text.utf8ByteSize := by
  obtain ⟨-, rfl⟩ := writeField_eq_ok_iff.mp hwrite
  rw [List.length_append, length_lengthBytes, Utf8.length_encode]

/-- What is wrong with a field of which only some bytes are kept. -/
def cutFault (field : Field) (size kept : Nat) : Fault :=
  if kept < 2 then .missingLength field else .overlong field size (kept - 2)

/-- A field that is cut is diagnosed by where it is cut, whatever its text. -/
theorem fieldFault_take (hwrite : writeField field text = .ok written)
    (hkept : kept < written.length) :
    FieldFault field (written.take kept) (cutFault field text.utf8ByteSize kept) := by
  have hlength := length_of_writeField hwrite
  obtain ⟨hsize, rfl⟩ := writeField_eq_ok_iff.mp hwrite
  unfold cutFault
  split
  next hshort =>
    refine .missingLength ?_
    rw [List.length_take]
    omega
  next hlong =>
    -- The length is kept, and it still tells the size of the whole text.
    obtain ⟨more, rfl⟩ := Nat.exists_eq_add_of_le' (not_lt.mp hlong)
    have hdeclared := declared_lengthBytes hsize
    have hmore : ((Utf8.encode text).take more).length = more := by
      rw [List.length_take, Utf8.length_encode]
      omega
    have hshort : ((Utf8.encode text).take more).length <
        (UInt8.ofNat (text.utf8ByteSize % 256)).toNat +
          256 * (UInt8.ofNat (text.utf8ByteSize / 256)).toNat := by
      rw [hmore, hdeclared]
      omega
    have hfault : FieldFault field _ _ := .overlong hshort
    rw [hdeclared, hmore] at hfault
    exact hfault

/-- The challenge of a packet is cut in its first field or behind it. -/
theorem decode_take (hencode : encode challenge = .ok packet) (hkept : kept < packet.length) :
    decode (packet.take kept) = .error
      (if kept < 2 + challenge.servicePrincipal.utf8ByteSize then
        cutFault .servicePrincipal challenge.servicePrincipal.utf8ByteSize kept
      else
        cutFault .realm challenge.realm.utf8ByteSize
          (kept - (2 + challenge.servicePrincipal.utf8ByteSize))) := by
  obtain ⟨principal, realm, hprincipal, hrealm, rfl⟩ := encode_eq_ok_iff.mp hencode
  have hlength := length_of_writeField hprincipal
  rw [decode_eq_error_iff, ← hlength]
  split
  next hfirst =>
    rw [List.take_append_of_le_length hfirst.le]
    exact .principal (fieldFault_take hprincipal hfirst)
  next hsecond =>
    rw [List.take_append, List.take_of_length_le (not_lt.mp hsecond)]
    rw [List.length_append] at hkept
    exact .realm hprincipal (fieldFault_take hrealm (by omega))

theorem decode_append (hencode : encode challenge = .ok packet) {rest : Bytes} (hrest : rest ≠ []) :
    decode (packet ++ rest) = .error (.trailing rest.length) :=
  decode_eq_error_iff.mpr (.trailing hencode hrest)

/-- No packet of a challenge begins with another. -/
theorem eq_of_begins (hencode : encode challenge = .ok packet) {other : Bytes}
    {challenge' : Challenge} (hdecode : decode other = .ok challenge')
    (hbegins : packet <+: other) : other = packet := by
  obtain ⟨rest, rfl⟩ := hbegins
  by_cases hrest : rest = []
  · rw [hrest, List.append_nil]
  · cases hdecode.symm.trans (decode_append hencode hrest)

/-- The packet of a challenge is read only as a whole and on its own. Cut anywhere, it lacks
a length or is too short for one; continued, it has as many bytes too many as were added. -/
theorem packet_delimited (challenge : Challenge) (packet : Bytes)
    (hencode : encode challenge = .ok packet) :
    Delimited packet challenge.servicePrincipal.utf8ByteSize challenge.realm.utf8ByteSize := by
  have hlength := length_of_encode hencode
  constructor
  case length => exact hlength
  case withoutPrincipalLength =>
    intro kept hkept
    rw [decode_take hencode (by omega), if_pos (by omega), cutFault, if_pos hkept]
    rfl
  case withinPrincipal =>
    intro kept hlow hhigh
    rw [decode_take hencode (by omega), if_pos hhigh, cutFault, if_neg (by omega)]
    rfl
  case withoutRealmLength =>
    intro kept hlow hhigh
    rw [decode_take hencode (by omega), if_neg (by omega), cutFault, if_pos (by omega)]
    rfl
  case withinRealm =>
    intro kept hlow hhigh
    have hremaining : kept - (2 + challenge.servicePrincipal.utf8ByteSize) - 2 =
        kept - 4 - challenge.servicePrincipal.utf8ByteSize := by omega
    rw [decode_take hencode hhigh, if_neg (by omega), cutFault, if_neg (by omega), hremaining]
    rfl
  case trailing =>
    intro rest hrest
    rw [decode_append hencode hrest]
    rfl
  case alone =>
    intro other challenge' hdecode hbegins
    rcases hbegins with hshorter | hlonger
    · exact (eq_of_begins (decode_eq_ok_iff.mp hdecode) (decode_eq_ok_iff.mpr hencode)
        hshorter).symm
    · exact eq_of_begins hencode hdecode hlonger

/-- A packet whose texts are two bytes for one character each. -/
theorem two_byte_characters_delimited :
    encode ⟨"é", "ü"⟩ = .ok [2, 0, 0xC3, 0xA9, 2, 0, 0xC3, 0xBC] ∧
      Delimited [2, 0, 0xC3, 0xA9, 2, 0, 0xC3, 0xBC] 2 2 :=
  ⟨by rfl, packet_delimited ⟨"é", "ü"⟩ _ (by rfl)⟩

end Challenge

end KerberosLogin
