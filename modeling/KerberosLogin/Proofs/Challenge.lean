import KerberosLogin.Challenge
import KerberosLogin.Proofs.Text.Utf8

/-! # One packet for each challenge

A packet is read as a challenge exactly when the challenge is written as that
packet. The two directions come field by field: what a field is written as is
read back in front of anything, and whatever is read as a field is what the
field is written as. Only the last field looks at what follows it.
-/

namespace KerberosLogin

namespace Challenge

theorem length_lengthBytes (length : Nat) : (lengthBytes length).length = 2 := rfl

theorem declared_lengthBytes {length : Nat} (hlength : length ≤ maxFieldSize) :
    (UInt8.ofNat (length % 256)).toNat + 256 * (UInt8.ofNat (length / 256)).toNat = length := by
  simp only [maxFieldSize] at hlength
  rw [UInt8.toNat_ofNat', UInt8.toNat_ofNat']
  omega

theorem lengthBytes_declared (low high : UInt8) :
    lengthBytes (low.toNat + 256 * high.toNat) = [low, high] := by
  have hlow := low.toNat_lt
  have hquotient : (low.toNat + 256 * high.toNat) / 256 = high.toNat := by omega
  have hremainder : (low.toNat + 256 * high.toNat) % 256 = low.toNat := by omega
  rw [lengthBytes, hquotient, hremainder, UInt8.ofNat_toNat, UInt8.ofNat_toNat]

theorem writeField_eq_ok_iff {field : Field} {text : String} {bytes : Bytes} :
    writeField field text = .ok bytes ↔
      text.utf8ByteSize ≤ maxFieldSize ∧
        lengthBytes text.utf8ByteSize ++ Utf8.encode text = bytes := by
  simp only [writeField, Utf8.length_encode]
  split
  next hsize => simp [hsize]
  next hsize => simp [hsize]

theorem readField_of_overlong {field : Field} {low high : UInt8} {rest : Bytes}
    (hshort : rest.length < low.toNat + 256 * high.toNat) :
    readField field (low :: high :: rest) =
      .error (.overlong field (low.toNat + 256 * high.toNat) rest.length) :=
  if_pos hshort

theorem readField_of_fits {field : Field} {low high : UInt8} {text rest : Bytes}
    (hlength : text.length = low.toNat + 256 * high.toNat) :
    readField field (low :: high :: (text ++ rest)) =
      ((Utf8.decode text).map (·, rest)).mapError (.notText field) := by
  have hfits : ¬ (text ++ rest).length < text.length := by
    rw [List.length_append]
    omega
  unfold readField
  simp only [← hlength, if_neg hfits, List.take_left, List.drop_left]
  cases hdecode : Utf8.decode text with
  | error fault => simp only [Except.map, Except.mapError]
  | ok decoded => simp only [Except.map, Except.mapError]

/-- A field that was written is read back, and what follows it is left over. -/
theorem readField_append {field : Field} {text : String} {bytes : Bytes}
    (hwrite : writeField field text = .ok bytes) (rest : Bytes) :
    readField field (bytes ++ rest) = .ok (text, rest) := by
  obtain ⟨hsize, rfl⟩ := writeField_eq_ok_iff.mp hwrite
  simp only [lengthBytes, List.cons_append, List.nil_append, readField,
    declared_lengthBytes hsize]
  have hlength := Utf8.length_encode text
  rw [if_neg (by rw [List.length_append]; omega), List.take_left' hlength,
    List.drop_left' hlength, Utf8.decode_eq_ok_iff.mpr rfl]

/-- Whatever is read as a field is what the field is written as. -/
theorem writeField_of_readField {field : Field} {bytes rest : Bytes} {text : String}
    (hread : readField field bytes = .ok (text, rest)) :
    ∃ written, writeField field text = .ok written ∧ bytes = written ++ rest := by
  match bytes with
  | [] | [_] => cases hread
  | low :: high :: tail =>
      simp only [readField] at hread
      split at hread
      next => cases hread
      next hfits =>
        split at hread
        next text' hdecode =>
          obtain ⟨rfl, rfl⟩ := Prod.mk.inj (Except.ok.inj hread)
          -- The declared length is the size of the text, for the text was written as
          -- exactly as many bytes.
          have hencode := Utf8.decode_eq_ok_iff.mp hdecode
          have hsize : text'.utf8ByteSize = low.toNat + 256 * high.toNat := by
            rw [← Utf8.length_encode, hencode, List.length_take]
            omega
          have hlow := low.toNat_lt
          have hhigh := high.toNat_lt
          refine ⟨_, writeField_eq_ok_iff.mpr ⟨by rw [hsize, maxFieldSize]; omega, rfl⟩, ?_⟩
          rw [hsize, lengthBytes_declared, hencode, List.append_assoc, List.take_append_drop]
          rfl
        next => cases hread

theorem encode_eq_ok_iff {challenge : Challenge} {packet : Bytes} :
    encode challenge = .ok packet ↔ ∃ principal realm,
      writeField .servicePrincipal challenge.servicePrincipal = .ok principal ∧
        writeField .realm challenge.realm = .ok realm ∧ principal ++ realm = packet := by
  cases hprincipal : writeField .servicePrincipal challenge.servicePrincipal with
  | error fault => simp [encode, hprincipal, bind, Except.bind]
  | ok principal =>
      cases hrealm : writeField .realm challenge.realm with
      | error fault => simp [encode, hprincipal, hrealm, bind, Except.bind]
      | ok realm => simp [encode, hprincipal, hrealm, bind, Except.bind, pure, Except.pure]

theorem readFields_of_decode {packet : Bytes} {challenge : Challenge}
    (hdecode : decode packet = .ok challenge) : ∃ rest,
      readField .servicePrincipal packet = .ok (challenge.servicePrincipal, rest) ∧
        readField .realm rest = .ok (challenge.realm, []) := by
  cases hprincipal : readField .servicePrincipal packet with
  | error fault => simp [decode, hprincipal, bind, Except.bind] at hdecode
  | ok first =>
      obtain ⟨principal, rest⟩ := first
      cases hrealm : readField .realm rest with
      | error fault => simp [decode, hprincipal, hrealm, bind, Except.bind] at hdecode
      | ok second =>
          obtain ⟨realm, rest'⟩ := second
          simp only [decode, hprincipal, hrealm, bind, Except.bind] at hdecode
          split at hdecode
          next hempty =>
            cases hdecode
            exact ⟨rest, rfl, by rw [List.isEmpty_iff.mp hempty] at hrealm; exact hrealm⟩
          next => cases hdecode

theorem decode_of_readFields {packet rest : Bytes} {challenge : Challenge}
    (hprincipal : readField .servicePrincipal packet = .ok (challenge.servicePrincipal, rest))
    (hrealm : readField .realm rest = .ok (challenge.realm, [])) :
    decode packet = .ok challenge := by
  simp [decode, hprincipal, hrealm, bind, Except.bind, pure, Except.pure]

/-- Reading and writing determine each other. -/
theorem decode_eq_ok_iff {packet : Bytes} {challenge : Challenge} :
    decode packet = .ok challenge ↔ encode challenge = .ok packet := by
  constructor
  · intro hdecode
    obtain ⟨rest, hprincipal, hrealm⟩ := readFields_of_decode hdecode
    obtain ⟨principal, hfirst, rfl⟩ := writeField_of_readField hprincipal
    obtain ⟨realm, hsecond, rfl⟩ := writeField_of_readField hrealm
    exact encode_eq_ok_iff.mpr ⟨principal, realm, hfirst, hsecond, by rw [List.append_nil]⟩
  · intro hencode
    obtain ⟨principal, realm, hprincipal, hrealm, rfl⟩ := encode_eq_ok_iff.mp hencode
    have hlast := readField_append hrealm []
    rw [List.append_nil] at hlast
    exact decode_of_readFields (readField_append hprincipal realm) hlast

theorem encode_isOk_iff {challenge : Challenge} :
    (∃ packet, encode challenge = .ok packet) ↔
      challenge.servicePrincipal.utf8ByteSize ≤ maxFieldSize ∧
        challenge.realm.utf8ByteSize ≤ maxFieldSize := by
  simp only [encode_eq_ok_iff, writeField_eq_ok_iff]
  constructor
  · rintro ⟨_, _, _, ⟨hprincipal, _⟩, ⟨hrealm, _⟩, _⟩
    exact ⟨hprincipal, hrealm⟩
  · rintro ⟨hprincipal, hrealm⟩
    exact ⟨_, _, _, ⟨hprincipal, rfl⟩, ⟨hrealm, rfl⟩, rfl⟩

theorem length_of_encode {challenge : Challenge} {packet : Bytes}
    (hencode : encode challenge = .ok packet) :
    packet.length = 4 + challenge.servicePrincipal.utf8ByteSize + challenge.realm.utf8ByteSize := by
  obtain ⟨principal, realm, hprincipal, hrealm, rfl⟩ := encode_eq_ok_iff.mp hencode
  obtain ⟨_, rfl⟩ := writeField_eq_ok_iff.mp hprincipal
  obtain ⟨_, rfl⟩ := writeField_eq_ok_iff.mp hrealm
  simp only [List.length_append, length_lengthBytes, Utf8.length_encode]
  omega

/-- The packets that can be read are the packets that can be written. A challenge
has a packet if and only if both of its texts fit a length of two bytes; it has
then exactly one, whose size is that of the texts and of the two lengths. -/
theorem packet_canonical :
    (∀ packet challenge, decode packet = .ok challenge ↔ encode challenge = .ok packet) ∧
    (∀ challenge, (∃ packet, encode challenge = .ok packet) ↔
      challenge.servicePrincipal.utf8ByteSize ≤ 65535 ∧ challenge.realm.utf8ByteSize ≤ 65535) ∧
    (∀ challenge packet, encode challenge = .ok packet → packet.length =
      4 + challenge.servicePrincipal.utf8ByteSize + challenge.realm.utf8ByteSize) ∧
    (∀ challenge, challenge.servicePrincipal.utf8ByteSize ≤ 65535 →
      challenge.realm.utf8ByteSize ≤ 65535 →
      ∃ packet, encode challenge = .ok packet ∧ decode packet = .ok challenge) ∧
    (∀ packet challenge, decode packet = .ok challenge → encode challenge = .ok packet) ∧
    (∀ challenge first second, decode first = .ok challenge → decode second = .ok challenge →
      first = second) := by
  refine ⟨fun _ _ => decode_eq_ok_iff, fun _ => encode_isOk_iff, fun _ _ => length_of_encode,
    ?_, fun _ _ => decode_eq_ok_iff.mp, ?_⟩
  · intro challenge hprincipal hrealm
    obtain ⟨packet, hencode⟩ := encode_isOk_iff.mpr ⟨hprincipal, hrealm⟩
    exact ⟨packet, hencode, decode_eq_ok_iff.mpr hencode⟩
  · intro challenge first second hfirst hsecond
    have hone := decode_eq_ok_iff.mp hfirst
    have hother := decode_eq_ok_iff.mp hsecond
    exact Except.ok.inj (hone.symm.trans hother)

theorem decodeOptional_cons (byte : UInt8) (packet : Bytes) :
    decodeOptional (some (byte :: packet)) = (decode (byte :: packet)).map fun challenge =>
      if challenge.servicePrincipal.isEmpty then none else some challenge := by
  cases hdecode : decode (byte :: packet) <;> simp only [decodeOptional, hdecode] <;> rfl

/-- The packets that are a challenge to the client. -/
theorem decodeOptional_eq_some_iff {initial : Option Bytes} {challenge : Challenge} :
    decodeOptional initial = .ok (some challenge) ↔
      ∃ packet, initial = some packet ∧ decode packet = .ok challenge ∧
        challenge.servicePrincipal ≠ "" := by
  rcases initial with _ | _ | ⟨byte, packet⟩
  · exact ⟨nofun, nofun⟩
  · refine ⟨nofun, ?_⟩
    rintro ⟨_, hinitial, hdecode, _⟩
    cases hinitial
    cases hdecode
  · rw [decodeOptional_cons]
    simp only [Option.some.injEq, exists_eq_left']
    rcases decode (byte :: packet) with fault | decoded
    · exact ⟨nofun, nofun⟩
    · by_cases hempty : decoded.servicePrincipal = ""
      · have hread : (if decoded.servicePrincipal.isEmpty then none else some decoded) = none :=
          if_pos (String.isEmpty_iff.mpr hempty)
        rw [Except.map, hread]
        refine ⟨nofun, ?_⟩
        rintro ⟨hdecoded, hprincipal⟩
        cases hdecoded
        exact absurd hempty hprincipal
      · have hread : (if decoded.servicePrincipal.isEmpty then none else some decoded) =
            some decoded := if_neg fun hyes => hempty (String.isEmpty_iff.mp hyes)
        rw [Except.map, hread]
        constructor
        · intro hdecoded
          cases hdecoded
          exact ⟨rfl, hempty⟩
        · rintro ⟨hdecoded, _⟩
          cases hdecoded
          rfl

end Challenge

end KerberosLogin
