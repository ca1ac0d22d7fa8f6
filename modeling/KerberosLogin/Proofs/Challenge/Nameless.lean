import KerberosLogin.Proofs.Challenge

/-! # Packets that name no service principal

Only a packet that can be read to its end counts as naming no service principal. One whose
first length is zero but whose realm is broken is malformed like any other.
-/

namespace KerberosLogin

namespace Challenge

/-- First data of a server that name no service principal. -/
inductive Nameless : Option Bytes → Prop where
  | absent : Nameless none
  | empty : Nameless (some [])
  | unnamed {packet : Bytes} {realm : String} (hdecode : decode packet = .ok ⟨"", realm⟩) :
      Nameless (some packet)

theorem decodeOptional_eq_none_iff {initial : Option Bytes} :
    decodeOptional initial = .ok none ↔ Nameless initial := by
  rcases initial with _ | _ | ⟨byte, packet⟩
  · exact ⟨fun _ => .absent, fun _ => rfl⟩
  · exact ⟨fun _ => .empty, fun _ => rfl⟩
  · rw [decodeOptional_cons]
    constructor
    · intro hnone
      rcases hdecode : decode (byte :: packet) with fault | ⟨principal, realm⟩
      · rw [hdecode] at hnone
        cases hnone
      · by_cases hempty : principal = ""
        · subst hempty
          exact .unnamed hdecode
        · rw [hdecode, Except.map, if_neg (mt String.isEmpty_iff.mp hempty)] at hnone
          cases hnone
    · intro hnameless
      cases hnameless with
      | unnamed hdecode =>
          rw [hdecode]
          rfl

theorem decodeOptional_eq_error_iff {initial : Option Bytes} {fault : Fault} :
    decodeOptional initial = .error fault ↔
      ∃ packet, initial = some packet ∧ packet ≠ [] ∧ decode packet = .error fault := by
  rcases initial with _ | _ | ⟨byte, packet⟩
  · simp [decodeOptional]
  · simp [decodeOptional]
  · rw [decodeOptional_cons]
    rcases hdecode : decode (byte :: packet) with fault' | challenge <;> simp [Except.map, hdecode]

/-- The packets without a service principal, byte by byte. -/
theorem decode_unnamed_iff {packet : Bytes} {realm : String} :
    decode packet = .ok ⟨"", realm⟩ ↔ realm.utf8ByteSize ≤ maxFieldSize ∧
      packet = 0 :: 0 :: (lengthBytes realm.utf8ByteSize ++ Utf8.encode realm) := by
  have hempty : lengthBytes ("" : String).utf8ByteSize ++ Utf8.encode "" = [0, 0] := rfl
  simp only [decode_eq_ok_iff, encode_eq_ok_iff, writeField_eq_ok_iff, hempty]
  constructor
  · rintro ⟨_, _, ⟨_, rfl⟩, ⟨hsize, rfl⟩, rfl⟩
    exact ⟨hsize, rfl⟩
  · rintro ⟨hsize, rfl⟩
    exact ⟨_, _, ⟨Nat.zero_le _, rfl⟩, ⟨hsize, rfl⟩, rfl⟩

/-- What can be wrong with the bytes behind an empty service principal. -/
inductive RealmFault : Bytes → Fault → Prop where
  | missing {rest : Bytes} (hshort : rest.length < 2) : RealmFault rest (.missingLength .realm)
  | overlong {low high : UInt8} {rest : Bytes}
      (hshort : rest.length < low.toNat + 256 * high.toNat) :
      RealmFault (low :: high :: rest)
        (.overlong .realm (low.toNat + 256 * high.toNat) rest.length)
  | notText {low high : UInt8} {realm rest : Bytes} {fault : Utf8.Fault}
      (hlength : realm.length = low.toNat + 256 * high.toNat)
      (htext : Utf8.decode realm = .error fault) :
      RealmFault (low :: high :: (realm ++ rest)) (.notText .realm fault)
  | trailing {low high : UInt8} {realm rest : Bytes} {text : String}
      (hlength : realm.length = low.toNat + 256 * high.toNat)
      (htext : Utf8.decode realm = .ok text) (hrest : rest ≠ []) :
      RealmFault (low :: high :: (realm ++ rest)) (.trailing rest.length)

theorem readField_zero_zero (field : Field) (rest : Bytes) :
    readField field (0 :: 0 :: rest) = .ok ("", rest) := by
  have hempty : writeField field "" = .ok [0, 0] := rfl
  exact readField_append hempty rest

theorem decode_zero_zero (rest : Bytes) :
    decode (0 :: 0 :: rest) = (do
      let (realm, rest) ← readField .realm rest
      if rest.isEmpty then return ⟨"", realm⟩ else throw (.trailing rest.length)) := by
  unfold decode
  rw [readField_zero_zero]
  rfl

theorem decode_of_realmFault {rest : Bytes} {fault : Fault} (hfault : RealmFault rest fault) :
    decode (0 :: 0 :: rest) = .error fault := by
  rw [decode_zero_zero]
  cases hfault with
  | missing hshort =>
      match rest, hshort with
      | [], _ | [_], _ => rfl
  | overlong hshort =>
      rw [readField_of_overlong hshort]
      rfl
  | notText hlength htext =>
      rw [readField_of_fits hlength, htext]
      rfl
  | @trailing _ _ _ rest _ hlength htext hrest =>
      rw [readField_of_fits hlength, htext]
      cases rest with
      | nil => exact absurd rfl hrest
      | cons byte rest => rfl

theorem realmFault_or_unnamed (rest : Bytes) :
    (∃ fault, RealmFault rest fault) ∨ ∃ realm, decode (0 :: 0 :: rest) = .ok ⟨"", realm⟩ := by
  match rest with
  | [] | [_] => exact .inl ⟨_, .missing (by simp)⟩
  | low :: high :: tail =>
      by_cases hshort : tail.length < low.toNat + 256 * high.toNat
      · exact .inl ⟨_, .overlong hshort⟩
      obtain ⟨realm, rest, rfl, hlength⟩ : ∃ realm rest, tail = realm ++ rest ∧
          realm.length = low.toNat + 256 * high.toNat :=
        ⟨_, _, (List.take_append_drop _ tail).symm, List.length_take_of_le (by omega)⟩
      rcases htext : Utf8.decode realm with fault | text
      · exact .inl ⟨_, .notText hlength htext⟩
      cases rest with
      | nil =>
          refine .inr ⟨text, ?_⟩
          rw [decode_zero_zero, readField_of_fits hlength, htext]
          rfl
      | cons => exact .inl ⟨_, .trailing hlength htext (List.cons_ne_nil _ _)⟩

/-- A packet that names no service principal is unreadable exactly for a fault of its
realm. -/
theorem decode_zero_zero_eq_error_iff {rest : Bytes} {fault : Fault} :
    decode (0 :: 0 :: rest) = .error fault ↔ RealmFault rest fault := by
  constructor
  · intro herror
    rcases realmFault_or_unnamed rest with ⟨fault', hfault⟩ | ⟨realm, hdecode⟩
    · cases herror.symm.trans (decode_of_realmFault hfault)
      exact hfault
    · cases herror.symm.trans hdecode
  · exact decode_of_realmFault

end Challenge

end KerberosLogin
