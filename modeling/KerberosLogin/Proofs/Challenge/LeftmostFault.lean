import KerberosLogin.Proofs.Challenge
import KerberosLogin.Proofs.Text.Utf8.Fault

/-! # The leftmost fault of a packet

A packet that is no challenge is refused for the first thing that is wrong with it from the
left. What is wrong with a field is told by its length, by the number of bytes that are left
for it, and by its own bytes; what follows the field has no part in it.
-/

namespace KerberosLogin

namespace Challenge

/-- What can be wrong with the field at the front of some bytes. -/
inductive FieldFault (field : Field) : Bytes → Fault → Prop where
  | missingLength {bytes : Bytes} (hshort : bytes.length < 2) :
      FieldFault field bytes (.missingLength field)
  | overlong {low high : UInt8} {rest : Bytes}
      (hshort : rest.length < low.toNat + 256 * high.toNat) :
      FieldFault field (low :: high :: rest)
        (.overlong field (low.toNat + 256 * high.toNat) rest.length)
  | notText {low high : UInt8} {text rest : Bytes} {fault : Utf8.Fault}
      (hlength : text.length = low.toNat + 256 * high.toNat) (hmarks : fault.Marks text) :
      FieldFault field (low :: high :: (text ++ rest)) (.notText field fault)

/-- What is wrong with a packet. A fault counts only behind fields that are in order. -/
inductive LeftmostFault : Bytes → Fault → Prop where
  | principal {packet : Bytes} {fault : Fault}
      (hfault : FieldFault .servicePrincipal packet fault) : LeftmostFault packet fault
  | realm {principal : String} {written rest : Bytes} {fault : Fault}
      (hprincipal : writeField .servicePrincipal principal = .ok written)
      (hfault : FieldFault .realm rest fault) : LeftmostFault (written ++ rest) fault
  | trailing {challenge : Challenge} {written rest : Bytes}
      (hencode : encode challenge = .ok written) (hrest : rest ≠ []) :
      LeftmostFault (written ++ rest) (.trailing rest.length)

/-- What is told of a fault of the field that goes by a name. -/
inductive FieldTold (field : Field) (name : String) : Fault → String → Prop where
  | missingLength : FieldTold field name (.missingLength field) s!"missing {name} length"
  | overlong (declared remaining : Nat) :
      FieldTold field name (.overlong field declared remaining)
        s!"{name} length {declared} exceeds remaining {remaining} bytes"
  | notText {fault : Utf8.Fault} {reason : String} (hreason : fault.Told reason) :
      FieldTold field name (.notText field fault) s!"{name} is not valid UTF-8: {reason}"

/-- What is told of a fault. -/
inductive Told : Fault → String → Prop where
  | principal {fault : Fault} {text : String}
      (htold : FieldTold .servicePrincipal "service principal" fault text) : Told fault text
  | realm {fault : Fault} {text : String} (htold : FieldTold .realm "realm" fault text) :
      Told fault text
  | trailing (count : Nat) :
      Told (.trailing count) s!"{count} unexpected trailing bytes after realm"

variable {field : Field} {bytes packet : Bytes} {fault : Fault}

theorem readField_of_fieldFault (hfault : FieldFault field bytes fault) :
    readField field bytes = .error fault := by
  cases hfault with
  | missingLength hshort =>
      match bytes, hshort with
      | [], _ | [_], _ => rfl
  | overlong hshort => exact readField_of_overlong hshort
  | notText hlength hmarks =>
      rw [readField_of_fits hlength, Utf8.decode_eq_error_iff.mpr hmarks]
      rfl

theorem fieldFault_of_readField (hread : readField field bytes = .error fault) :
    FieldFault field bytes fault := by
  match bytes with
  | [] | [_] =>
      cases hread
      exact .missingLength (by simp)
  | low :: high :: rest =>
      by_cases hshort : rest.length < low.toNat + 256 * high.toNat
      · cases (readField_of_overlong hshort).symm.trans hread
        exact .overlong hshort
      obtain ⟨text, rest, rfl, hlength⟩ : ∃ text later, rest = text ++ later ∧
          text.length = low.toNat + 256 * high.toNat :=
        ⟨_, _, (List.take_append_drop _ rest).symm, List.length_take_of_le (by omega)⟩
      rw [readField_of_fits hlength] at hread
      cases hdecode : Utf8.decode text with
      | ok decoded => simp [hdecode, Except.map, Except.mapError] at hread
      | error fault' =>
          simp only [hdecode, Except.map, Except.mapError, Except.error.injEq] at hread
          subst hread
          exact .notText hlength (Utf8.decode_eq_error_iff.mp hdecode)

theorem decode_of_leftmostFault (hfault : LeftmostFault packet fault) :
    decode packet = .error fault := by
  cases hfault with
  | principal hfault => simp only [decode, readField_of_fieldFault hfault, bind, Except.bind]
  | @realm _ _ rest _ hprincipal hfault =>
      simp only [decode, readField_append hprincipal rest, readField_of_fieldFault hfault, bind,
        Except.bind]
  | @trailing challenge _ rest hencode hrest =>
      obtain ⟨principal, realm, hprincipal, hrealm, rfl⟩ := encode_eq_ok_iff.mp hencode
      rw [List.append_assoc]
      simp only [decode, readField_append hprincipal, readField_append hrealm, bind, Except.bind]
      exact if_neg (mt List.isEmpty_iff.mp hrest)

theorem leftmostFault_of_decode (hdecode : decode packet = .error fault) :
    LeftmostFault packet fault := by
  cases hprincipal : readField .servicePrincipal packet with
  | error fault' =>
      simp only [decode, hprincipal, bind, Except.bind, Except.error.injEq] at hdecode
      subst hdecode
      exact .principal (fieldFault_of_readField hprincipal)
  | ok first =>
      obtain ⟨principal, rest⟩ := first
      obtain ⟨written, hwritten, rfl⟩ := writeField_of_readField hprincipal
      cases hrealm : readField .realm rest with
      | error fault' =>
          simp only [decode, hprincipal, hrealm, bind, Except.bind, Except.error.injEq] at hdecode
          subst hdecode
          exact .realm hwritten (fieldFault_of_readField hrealm)
      | ok second =>
          obtain ⟨realm, later⟩ := second
          by_cases hlater : later = []
          · subst hlater
            have hread : decode _ = .ok ⟨principal, realm⟩ := decode_of_readFields hprincipal hrealm
            cases hdecode.symm.trans hread
          · -- What has been read is a packet of its own, and it is continued.
            obtain ⟨written', hwritten', rfl⟩ := writeField_of_readField hrealm
            have hencode : encode ⟨principal, realm⟩ = .ok (written ++ written') :=
              encode_eq_ok_iff.mpr ⟨_, _, hwritten, hwritten', rfl⟩
            have hfault := decode_of_leftmostFault (.trailing hencode hlater)
            rw [List.append_assoc, hdecode, Except.error.injEq] at hfault
            rw [hfault, ← List.append_assoc]
            exact .trailing hencode hlater

/-! ## What is told -/

theorem FieldFault.told (hfault : FieldFault field bytes fault) {name : String}
    (hname : field.name = name) : FieldTold field name fault fault.diagnostic := by
  subst hname
  cases hfault with
  | missingLength => exact .missingLength
  | overlong => exact .overlong _ _
  | @notText _ _ _ _ fault => exact .notText fault.told_message

theorem LeftmostFault.told (hfault : LeftmostFault packet fault) :
    Told fault fault.diagnostic := by
  cases hfault with
  | principal hfault => exact .principal (hfault.told rfl)
  | realm _ hfault => exact .realm (hfault.told rfl)
  | @trailing _ _ rest => exact .trailing rest.length

/-- A packet is refused exactly for its leftmost fault. -/
theorem decode_eq_error_iff : decode packet = .error fault ↔ LeftmostFault packet fault :=
  ⟨leftmostFault_of_decode, decode_of_leftmostFault⟩

/-- Reading a packet fails exactly if something is wrong with it, and the error tells what is
wrong first. Data that are not empty are read as the packet is, except that a challenge
without a service principal counts as none. -/
theorem leftmost_fault_reported :
    (∀ packet, (∃ challenge, decode packet = .ok challenge) ∨
      ∃ fault text, (decode packet).mapError Fault.toError = .error ⟨.malformedPacket, text⟩ ∧
        LeftmostFault packet fault ∧ Told fault text) ∧
    (∀ packet fault, decode packet = .error fault ↔ LeftmostFault packet fault) ∧
    ∀ byte rest, decodeOptional (some (byte :: rest)) = (decode (byte :: rest)).map
      fun challenge => if challenge.servicePrincipal = "" then none else some challenge := by
  refine ⟨fun packet => ?_, fun _ _ => decode_eq_error_iff, fun byte rest => ?_⟩
  · cases hdecode : decode packet with
    | ok challenge => exact .inl ⟨challenge, rfl⟩
    | error fault =>
        have hfault := decode_eq_error_iff.mp hdecode
        exact .inr ⟨fault, fault.diagnostic, rfl, hfault, hfault.told⟩
  · simp only [decodeOptional_cons, String.isEmpty_iff]

end Challenge

end KerberosLogin
