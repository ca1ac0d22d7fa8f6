import KerberosLogin.Text.Utf8
import Mathlib

/-! # Decoding is the inverse of encoding

The decoder follows a table of first bytes and of intervals for the bytes after
them; the encoder computes bytes from a code point. The two meet in four widths.
In each of them the bytes that the table admits are those of exactly one
character, so a byte string is read as a text if and only if the text is written
that way. Overlong forms and surrogates need no case of their own: the table
excludes them, and no character has such a code point or such bytes.
-/

namespace KerberosLogin

namespace Utf8

theorem Interval.contains_iff (interval : Interval) (byte : UInt8) :
    interval.contains byte = true ↔ interval.low ≤ byte.toNat ∧ byte.toNat ≤ interval.high := by
  simp [Interval.contains]

/-- What continuation bytes make of the bits read before them, six bits each. -/
def extend : Bytes → Nat → Nat
  | [], bits => bits
  | byte :: tail, bits => extend tail (bits * 64 + (byte.toNat - 0x80))

/-- A character is completed exactly by bytes that lie in the expected intervals,
one for each. -/
theorem follow_eq_character_iff {bits width : Nat} {expected : List Interval} {bytes : Bytes}
    {char : Char} {rest : Bytes} :
    follow bits width expected bytes = .character char rest ↔
      ∃ tail, List.Forall₂ (fun interval byte => interval.contains byte = true) expected tail ∧
        bytes = tail ++ rest ∧ Char.ofNat (extend tail bits) = char := by
  induction expected generalizing bits width bytes with
  | nil =>
      constructor
      · intro hfollow
        obtain ⟨hchar, hrest⟩ := Front.character.inj hfollow
        exact ⟨[], .nil, hrest, hchar⟩
      · rintro ⟨tail, htail, rfl, rfl⟩
        cases htail
        rfl
  | cons interval expected ih =>
      constructor
      · intro hfollow
        cases bytes with
        | nil => simp [follow] at hfollow
        | cons byte bytes =>
            simp only [follow] at hfollow
            split at hfollow
            next hbyte =>
              obtain ⟨tail, htail, rfl, hchar⟩ := ih.mp hfollow
              exact ⟨byte :: tail, .cons hbyte htail, rfl, hchar⟩
            next => cases hfollow
      · rintro ⟨tail, htail, rfl, hchar⟩
        cases htail with
        | cons hbyte htail =>
            rw [List.cons_append, follow, if_pos hbyte]
            exact ih.mpr ⟨_, htail, rfl, hchar⟩

/-! ## The four widths of a character -/

theorem utf8EncodeChar_eq_one_iff {char : Char} (hsize : char.toNat ≤ 0x7F) {bytes : Bytes} :
    String.utf8EncodeChar char = bytes ↔ ∃ first, bytes = [first] ∧ first.toNat = char.toNat := by
  have hvalue : char.val.toNat = char.toNat := rfl
  rw [String.utf8EncodeChar, hvalue, if_pos hsize]
  constructor
  · rintro rfl
    refine ⟨_, rfl, ?_⟩
    rw [UInt8.toNat_ofNat']
    omega
  · rintro ⟨first, rfl, hfirst⟩
    rw [← hfirst, UInt8.ofNat_toNat]

theorem utf8EncodeChar_eq_two_iff {char : Char} (hsize : 0x7F < char.toNat ∧ char.toNat ≤ 0x7FF)
    {bytes : Bytes} :
    String.utf8EncodeChar char = bytes ↔ ∃ first second, bytes = [first, second] ∧
      first.toNat = char.toNat / 64 + 0xC0 ∧ second.toNat = char.toNat % 64 + 0x80 := by
  have hvalue : char.val.toNat = char.toNat := rfl
  rw [String.utf8EncodeChar, hvalue, if_neg (by omega), if_pos (by omega)]
  constructor
  · rintro rfl
    refine ⟨_, _, rfl, ?_, ?_⟩ <;> rw [UInt8.toNat_ofNat'] <;> omega
  · rintro ⟨first, second, rfl, hfirst, hsecond⟩
    congr <;> apply UInt8.toNat_inj.mp <;> rw [UInt8.toNat_ofNat'] <;> omega

theorem utf8EncodeChar_eq_three_iff {char : Char}
    (hsize : 0x7FF < char.toNat ∧ char.toNat ≤ 0xFFFF) {bytes : Bytes} :
    String.utf8EncodeChar char = bytes ↔ ∃ first second third, bytes = [first, second, third] ∧
      first.toNat = char.toNat / 4096 + 0xE0 ∧
      second.toNat = char.toNat / 64 % 64 + 0x80 ∧ third.toNat = char.toNat % 64 + 0x80 := by
  have hvalue : char.val.toNat = char.toNat := rfl
  rw [String.utf8EncodeChar, hvalue, if_neg (by omega), if_neg (by omega), if_pos (by omega)]
  constructor
  · rintro rfl
    refine ⟨_, _, _, rfl, ?_, ?_, ?_⟩ <;> rw [UInt8.toNat_ofNat'] <;> omega
  · rintro ⟨first, second, third, rfl, hfirst, hsecond, hthird⟩
    congr <;> apply UInt8.toNat_inj.mp <;> rw [UInt8.toNat_ofNat'] <;> omega

theorem utf8EncodeChar_eq_four_iff {char : Char} (hsize : 0xFFFF < char.toNat) {bytes : Bytes} :
    String.utf8EncodeChar char = bytes ↔
      ∃ first second third fourth, bytes = [first, second, third, fourth] ∧
        first.toNat = char.toNat / 262144 + 0xF0 ∧
        second.toNat = char.toNat / 4096 % 64 + 0x80 ∧
        third.toNat = char.toNat / 64 % 64 + 0x80 ∧ fourth.toNat = char.toNat % 64 + 0x80 := by
  have hvalue : char.val.toNat = char.toNat := rfl
  have hvalid : char.toNat < 0xD800 ∨ 0xDFFF < char.toNat ∧ char.toNat < 0x110000 := char.valid
  rw [String.utf8EncodeChar, hvalue, if_neg (by omega), if_neg (by omega), if_neg (by omega)]
  constructor
  · rintro rfl
    refine ⟨_, _, _, _, rfl, ?_, ?_, ?_, ?_⟩ <;> rw [UInt8.toNat_ofNat'] <;> omega
  · rintro ⟨first, second, third, fourth, rfl, hfirst, hsecond, hthird, hfourth⟩
    congr <;> apply UInt8.toNat_inj.mp <;> rw [UInt8.toNat_ofNat'] <;> omega

/-! ## What the first byte says -/

theorem lead?_one {byte : UInt8} (hbyte : byte.toNat < 0x80) :
    lead? byte = some ⟨byte.toNat, []⟩ :=
  if_pos hbyte

theorem lead?_two {byte : UInt8} {bits : Nat} (hbits : 2 ≤ bits ∧ bits < 32)
    (hbyte : byte.toNat = bits + 0xC0) : lead? byte = some ⟨bits, [continuation]⟩ := by
  have hvalue : byte.toNat - 0xC0 = bits := by omega
  simp only [lead?]
  rw [if_neg (by omega), if_neg (by omega), if_pos (by omega), hvalue]

theorem lead?_three {byte : UInt8} {bits : Nat} (hbits : bits < 16)
    (hbyte : byte.toNat = bits + 0xE0) :
    lead? byte = some ⟨bits,
      [⟨if bits = 0 then 0xA0 else 0x80, if bits = 13 then 0x9F else 0xBF⟩, continuation]⟩ := by
  have hvalue : byte.toNat - 0xE0 = bits := by omega
  simp only [lead?]
  rw [if_neg (by omega), if_neg (by omega), if_neg (by omega)]
  by_cases hzero : bits = 0
  · rw [if_pos (by omega)]
    subst hzero
    rfl
  by_cases hsurrogate : bits = 13
  · rw [if_neg (by omega), if_pos (by omega)]
    subst hsurrogate
    rfl
  · rw [if_neg (by omega), if_neg (by omega), if_pos (by omega), if_neg hzero,
      if_neg hsurrogate, hvalue]
    rfl

theorem lead?_four {byte : UInt8} {bits : Nat} (hbits : bits < 5)
    (hbyte : byte.toNat = bits + 0xF0) :
    lead? byte = some ⟨bits,
      [⟨if bits = 0 then 0x90 else 0x80, if bits = 4 then 0x8F else 0xBF⟩, continuation,
        continuation]⟩ := by
  have hvalue : byte.toNat - 0xF0 = bits := by omega
  simp only [lead?]
  rw [if_neg (by omega), if_neg (by omega), if_neg (by omega), if_neg (by omega),
    if_neg (by omega), if_neg (by omega)]
  by_cases hzero : bits = 0
  · rw [if_pos (by omega)]
    subst hzero
    rfl
  by_cases hlast : bits = 4
  · rw [if_neg (by omega), if_neg (by omega), if_pos (by omega)]
    subst hlast
    rfl
  · rw [if_neg (by omega), if_pos (by omega), if_neg hzero, if_neg hlast, hvalue]
    rfl

theorem lead?_none {byte : UInt8}
    (hbyte : 0x80 ≤ byte.toNat ∧ byte.toNat < 0xC2 ∨ 0xF5 ≤ byte.toNat) : lead? byte = none := by
  simp only [lead?]
  rw [if_neg (by omega)]
  by_cases hlow : byte.toNat < 0xC2
  · rw [if_pos hlow]
  · rw [if_neg hlow, if_neg (by omega), if_neg (by omega), if_neg (by omega), if_neg (by omega),
      if_neg (by omega), if_neg (by omega), if_neg (by omega)]

/-! ## Whole characters -/

/-- The bytes of a character are read as that character, whatever follows. -/
theorem front_of_utf8EncodeChar {char : Char} {byte : UInt8} {tail : Bytes}
    (hbytes : String.utf8EncodeChar char = byte :: tail) (rest : Bytes) :
    front byte (tail ++ rest) = .character char rest := by
  have hvalid : char.toNat < 0xD800 ∨ 0xDFFF < char.toNat ∧ char.toNat < 0x110000 := char.valid
  by_cases hone : char.toNat ≤ 0x7F
  · obtain ⟨first, heq, hfirst⟩ := (utf8EncodeChar_eq_one_iff hone).mp hbytes
    cases heq
    simp only [front, lead?_one (show byte.toNat < 0x80 by omega)]
    refine follow_eq_character_iff.mpr ⟨[], .nil, rfl, ?_⟩
    rw [extend, hfirst, Char.ofNat_toNat]
  by_cases htwo : char.toNat ≤ 0x7FF
  · obtain ⟨first, second, heq, hfirst, hsecond⟩ :=
      (utf8EncodeChar_eq_two_iff ⟨by omega, htwo⟩).mp hbytes
    cases heq
    simp only [front, lead?_two (by omega) hfirst]
    refine follow_eq_character_iff.mpr ⟨[second], ?_, rfl, ?_⟩
    · simp only [List.forall₂_cons, Interval.contains_iff, continuation, List.Forall₂.nil, and_true]
      omega
    · have hvalue : extend [second] (char.toNat / 64) = char.toNat := by
        simp only [extend]
        omega
      rw [hvalue, Char.ofNat_toNat]
  by_cases hthree : char.toNat ≤ 0xFFFF
  · obtain ⟨first, second, third, heq, hfirst, hsecond, hthird⟩ :=
      (utf8EncodeChar_eq_three_iff ⟨by omega, hthree⟩).mp hbytes
    cases heq
    simp only [front, lead?_three (by omega) hfirst]
    refine follow_eq_character_iff.mpr ⟨[second, third], ?_, rfl, ?_⟩
    · simp only [List.forall₂_cons, Interval.contains_iff, continuation, List.Forall₂.nil, and_true]
      split_ifs <;> omega
    · have hvalue : extend [second, third] (char.toNat / 4096) = char.toNat := by
        simp only [extend]
        omega
      rw [hvalue, Char.ofNat_toNat]
  · obtain ⟨first, second, third, fourth, heq, hfirst, hsecond, hthird, hfourth⟩ :=
      (utf8EncodeChar_eq_four_iff (by omega)).mp hbytes
    cases heq
    simp only [front, lead?_four (by omega) hfirst]
    refine follow_eq_character_iff.mpr ⟨[second, third, fourth], ?_, rfl, ?_⟩
    · simp only [List.forall₂_cons, Interval.contains_iff, continuation, List.Forall₂.nil, and_true]
      split_ifs <;> omega
    · have hvalue : extend [second, third, fourth] (char.toNat / 262144) = char.toNat := by
        simp only [extend]
        omega
      rw [hvalue, Char.ofNat_toNat]

theorem utf8EncodeChar_ofNat_two {first second : UInt8} {bits : Nat} (hbits : 2 ≤ bits ∧ bits < 32)
    (hfirst : first.toNat = bits + 0xC0) (hsecond : continuation.contains second = true) :
    String.utf8EncodeChar (Char.ofNat (extend [second] bits)) = [first, second] := by
  simp only [Interval.contains_iff, continuation] at hsecond
  have hvalue : (Char.ofNat (extend [second] bits)).toNat = bits * 64 + (second.toNat - 0x80) := by
    simp only [extend]
    rw [Char.toNat_ofNat, if_pos (by omega)]
  rw [utf8EncodeChar_eq_two_iff (by omega)]
  exact ⟨first, second, rfl, by omega, by omega⟩

theorem utf8EncodeChar_ofNat_three {first second third : UInt8} {bits : Nat} (hbits : bits < 16)
    (hfirst : first.toNat = bits + 0xE0)
    (hsecond : Interval.contains
      ⟨if bits = 0 then 0xA0 else 0x80, if bits = 13 then 0x9F else 0xBF⟩ second = true)
    (hthird : continuation.contains third = true) :
    String.utf8EncodeChar (Char.ofNat (extend [second, third] bits)) = [first, second, third] := by
  simp only [Interval.contains_iff, continuation] at hsecond hthird
  have hvalue : (Char.ofNat (extend [second, third] bits)).toNat =
      (bits * 64 + (second.toNat - 0x80)) * 64 + (third.toNat - 0x80) := by
    simp only [extend]
    rw [Char.toNat_ofNat, if_pos (by split_ifs at hsecond <;> omega)]
  rw [utf8EncodeChar_eq_three_iff (by split_ifs at hsecond <;> omega)]
  exact ⟨first, second, third, rfl, by split_ifs at hsecond <;> omega,
    by split_ifs at hsecond <;> omega, by omega⟩

theorem utf8EncodeChar_ofNat_four {first second third fourth : UInt8} {bits : Nat}
    (hbits : bits < 5) (hfirst : first.toNat = bits + 0xF0)
    (hsecond : Interval.contains
      ⟨if bits = 0 then 0x90 else 0x80, if bits = 4 then 0x8F else 0xBF⟩ second = true)
    (hthird : continuation.contains third = true)
    (hfourth : continuation.contains fourth = true) :
    String.utf8EncodeChar (Char.ofNat (extend [second, third, fourth] bits)) =
      [first, second, third, fourth] := by
  simp only [Interval.contains_iff, continuation] at hsecond hthird hfourth
  have hvalue : (Char.ofNat (extend [second, third, fourth] bits)).toNat =
      ((bits * 64 + (second.toNat - 0x80)) * 64 + (third.toNat - 0x80)) * 64 +
        (fourth.toNat - 0x80) := by
    simp only [extend]
    rw [Char.toNat_ofNat, if_pos (by split_ifs at hsecond <;> omega)]
  rw [utf8EncodeChar_eq_four_iff (by split_ifs at hsecond <;> omega)]
  exact ⟨first, second, third, fourth, rfl, by split_ifs at hsecond <;> omega,
    by split_ifs at hsecond <;> omega, by omega, by omega⟩

/-- Only the bytes of a character are read as that character. -/
theorem utf8EncodeChar_of_front {byte : UInt8} {bytes : Bytes} {char : Char} {rest : Bytes}
    (hfront : front byte bytes = .character char rest) :
    byte :: bytes = String.utf8EncodeChar char ++ rest := by
  have hsmall := byte.toNat_lt
  by_cases hnone : 0x80 ≤ byte.toNat ∧ byte.toNat < 0xC2 ∨ 0xF5 ≤ byte.toNat
  · simp only [front, lead?_none hnone, reduceCtorEq] at hfront
  by_cases hone : byte.toNat < 0x80
  · simp only [front, lead?_one hone, follow_eq_character_iff, List.forall₂_nil_left_iff] at hfront
    obtain ⟨tail, rfl, rfl, rfl⟩ := hfront
    have hvalue : (Char.ofNat byte.toNat).toNat = byte.toNat := by
      rw [Char.toNat_ofNat, if_pos (by omega)]
    rw [extend, (utf8EncodeChar_eq_one_iff (by omega)).mpr ⟨byte, rfl, hvalue.symm⟩]
    rfl
  by_cases htwo : byte.toNat < 0xE0
  · obtain ⟨bits, hbits⟩ := Nat.exists_eq_add_of_le' (show 0xC0 ≤ byte.toNat by omega)
    simp only [front, lead?_two (by omega) hbits, follow_eq_character_iff,
      List.forall₂_cons_left_iff, List.forall₂_nil_left_iff] at hfront
    obtain ⟨_, ⟨second, _, hsecond, rfl, rfl⟩, rfl, rfl⟩ := hfront
    rw [utf8EncodeChar_ofNat_two (by omega) hbits hsecond]
    rfl
  by_cases hthree : byte.toNat < 0xF0
  · obtain ⟨bits, hbits⟩ := Nat.exists_eq_add_of_le' (show 0xE0 ≤ byte.toNat by omega)
    simp only [front, lead?_three (by omega) hbits, follow_eq_character_iff,
      List.forall₂_cons_left_iff, List.forall₂_nil_left_iff] at hfront
    obtain ⟨_, ⟨second, _, hsecond, ⟨third, _, hthird, rfl, rfl⟩, rfl⟩, rfl, rfl⟩ := hfront
    rw [utf8EncodeChar_ofNat_three (by omega) hbits hsecond hthird]
    rfl
  · obtain ⟨bits, hbits⟩ := Nat.exists_eq_add_of_le' (show 0xF0 ≤ byte.toNat by omega)
    simp only [front, lead?_four (by omega) hbits, follow_eq_character_iff,
      List.forall₂_cons_left_iff, List.forall₂_nil_left_iff] at hfront
    obtain ⟨_, ⟨second, _, hsecond, ⟨third, _, hthird, ⟨fourth, _, hfourth, rfl, rfl⟩, rfl⟩,
      rfl⟩, rfl, rfl⟩ := hfront
    rw [utf8EncodeChar_ofNat_four (by omega) hbits hsecond hthird hfourth]
    rfl

/-! ## Whole texts -/

theorem decodeFrom_flatMap (index : Nat) (chars : List Char) :
    decodeFrom index (chars.flatMap String.utf8EncodeChar) = .ok chars := by
  induction chars generalizing index with
  | nil => rw [List.flatMap_nil, decodeFrom]
  | cons char chars ih =>
      rw [List.flatMap_cons]
      cases hbytes : String.utf8EncodeChar char with
      | nil => exact absurd hbytes String.utf8EncodeChar_ne_nil
      | cons byte tail =>
          have hfront := front_of_utf8EncodeChar hbytes (chars.flatMap String.utf8EncodeChar)
          rw [List.cons_append, decodeFrom]
          split
          next char' rest' heq =>
            rw [hfront] at heq
            obtain ⟨rfl, rfl⟩ := Front.character.inj heq
            rw [ih]
            rfl
          next heq => simp [hfront] at heq
          next heq => simp [hfront] at heq

theorem flatMap_of_decodeFrom {index : Nat} {bytes : Bytes} {chars : List Char}
    (hdecode : decodeFrom index bytes = .ok chars) :
    chars.flatMap String.utf8EncodeChar = bytes := by
  fun_induction decodeFrom index bytes generalizing chars with
  | case1 =>
      cases hdecode
      rfl
  | case2 index byte bytes char rest hfront ih =>
      cases hrest : decodeFrom (index + char.utf8Size) rest with
      | error fault => simp [hrest, Except.map] at hdecode
      | ok chars' =>
          simp only [hrest, Except.map, Except.ok.injEq] at hdecode
          subst hdecode
          rw [List.flatMap_cons, ih hrest, utf8EncodeChar_of_front hfront]
  | case3 => cases hdecode
  | case4 => cases hdecode

/-- The bytes that are read as a text are those that the text is written in, and no others. -/
theorem decode_eq_ok_iff {bytes : Bytes} {text : String} :
    decode bytes = .ok text ↔ encode text = bytes := by
  constructor
  · intro hdecode
    cases hchars : decodeFrom 0 bytes with
    | error fault => simp [decode, hchars, Except.map] at hdecode
    | ok chars =>
        simp only [decode, hchars, Except.map, Except.ok.injEq] at hdecode
        rw [encode, ← hdecode, String.toList_ofList, flatMap_of_decodeFrom hchars]
  · rintro rfl
    rw [decode, encode, decodeFrom_flatMap]
    exact congrArg Except.ok String.ofList_toList

theorem length_encode (text : String) : (encode text).length = text.utf8ByteSize := by
  have hbytes : (encode text).toByteArray = text.toByteArray := by
    rw [encode, ← List.utf8Encode, ← String.toByteArray_ofList, String.ofList_toList]
  rw [← String.size_toByteArray, ← hbytes, List.size_toByteArray]

end Utf8

end KerberosLogin
