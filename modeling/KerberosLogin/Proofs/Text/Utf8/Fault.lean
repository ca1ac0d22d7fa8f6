import KerberosLogin.Proofs.Text.Utf8

/-! # Where text stops

Bytes that are no text are refused at the end of the longest text they begin with. What
stands there either begins a character that the end of the bytes cuts off, or is broken: a
run of bytes that begins a character and that the next byte cannot continue. A byte that
begins no character at all counts as a run of its own.
-/

namespace KerberosLogin

namespace Utf8

/-- Bytes at which a character has begun and has not ended. -/
def Begun (bytes : Bytes) : Prop :=
  bytes ≠ [] ∧ ∃ char more, more ≠ [] ∧ String.utf8EncodeChar char = bytes ++ more

theorem Begun.take {bytes : Bytes} (hbegun : Begun bytes) {count : Nat} (hcount : 0 < count) :
    Begun (bytes.take count) := by
  obtain ⟨hbytes, char, more, hmore, hchar⟩ := hbegun
  refine ⟨?_, char, bytes.drop count ++ more, ?_, ?_⟩
  · simp [List.take_eq_nil_iff, hbytes, hcount.ne']
  · simp [hmore]
  · rw [hchar, ← List.append_assoc, List.take_append_drop]

/-- How bytes that start with no character go on: to their end inside one, or to a break
behind the longest run that begins one. The run is a single byte where none begins. -/
inductive Stops : Option Nat → Bytes → Prop where
  | unfinished {bytes : Bytes} (hbegun : Begun bytes) : Stops none bytes
  | broken {bytes : Bytes} {width : Nat} (hwidth : 0 < width)
      (hrun : width = 1 ∨ Begun (bytes.take width))
      (hbreak : ¬ Begun (bytes.take (width + 1))) : Stops (some width) bytes

/-- Whether a fault says where the text in some bytes stops, and how. -/
structure Fault.Marks (fault : Fault) (bytes : Bytes) : Prop where
  index_lt : fault.index < bytes.length
  text : ∃ text, encode text = bytes.take fault.index
  longest : ∀ text, encode text <+: bytes → (encode text).length ≤ fault.index
  stops : Stops fault.width (bytes.drop fault.index)

/-- What is told of a fault. It counts as incomplete if the bytes end inside a character. -/
inductive Fault.Told : Fault → String → Prop where
  | incomplete (index : Nat) :
      Told ⟨index, none⟩ s!"incomplete utf-8 byte sequence from index {index}"
  | illFormed (index width : Nat) :
      Told ⟨index, some width⟩ s!"invalid utf-8 sequence of {width} bytes from index {index}"

theorem Fault.told_message (fault : Fault) : fault.Told fault.message := by
  obtain ⟨index, _ | width⟩ := fault
  · exact .incomplete index
  · exact .illFormed index width

theorem Stops.not_begun {bytes : Bytes} {width : Nat} (hstops : Stops (some width) bytes) :
    ¬ Begun bytes := by
  cases hstops with
  | broken _ _ hbreak => exact fun hbegun => hbreak (hbegun.take width.succ_pos)

theorem Stops.le_of_some {bytes : Bytes} {width width' : Nat}
    (hstops : Stops (some width) bytes) (hstops' : Stops (some width') bytes) :
    width ≤ width' := by
  cases hstops with
  | broken hwidth hrun _ =>
      cases hstops' with
      | broken hwidth' _ hbreak' =>
          by_contra hlt
          rcases hrun with hone | hrun
          · omega
          · -- The longer run begins a character, and so does all of it up to the break.
            have hshorter := hrun.take width'.succ_pos
            rw [List.take_take, Nat.min_eq_left (by omega)] at hshorter
            exact hbreak' hshorter

theorem Stops.unique {bytes : Bytes} {width width' : Option Nat} (hstops : Stops width bytes)
    (hstops' : Stops width' bytes) : width = width' := by
  cases width with
  | none =>
      cases width' with
      | none => rfl
      | some width' =>
          cases hstops with
          | unfinished hbegun => exact absurd hbegun hstops'.not_begun
  | some width =>
      cases width' with
      | none =>
          cases hstops' with
          | unfinished hbegun => exact absurd hbegun hstops.not_begun
      | some width' =>
          exact congrArg some (Nat.le_antisymm (hstops.le_of_some hstops')
            (hstops'.le_of_some hstops))

/-! ## Reading one character -/

/-- Every interval of continuation bytes holds some byte. -/
theorem exists_contains_of_lead? {byte : UInt8} {lead : Lead} (hlead : lead? byte = some lead) :
    ∀ interval ∈ lead.expected, ∃ byte, interval.contains byte = true := by
  have hlow : ∀ interval ∈ lead.expected,
      interval.contains (UInt8.ofNat interval.low) = true := by
    simp only [lead?] at hlead
    split_ifs at hlead <;> simp only [Option.some.injEq] at hlead <;>
      subst hlead <;> simp [Interval.contains, continuation]
  exact fun interval hmem => ⟨_, hlow interval hmem⟩

theorem exists_forall₂_contains {expected : List Interval}
    (hexpected : ∀ interval ∈ expected, ∃ byte, interval.contains byte = true) :
    ∃ bytes, List.Forall₂ (fun interval byte => interval.contains byte = true) expected bytes := by
  induction expected with
  | nil => exact ⟨[], .nil⟩
  | cons interval expected ih =>
      obtain ⟨⟨byte, hbyte⟩, hexpected⟩ := List.forall_mem_cons.mp hexpected
      obtain ⟨bytes, hbytes⟩ := ih hexpected
      exact ⟨byte :: bytes, .cons hbyte hbytes⟩

/-- The bytes end before the expected ones do exactly if some more would make a character of
them. -/
theorem follow_eq_unfinished_iff {bits width : Nat} {expected : List Interval} {bytes : Bytes}
    (hexpected : ∀ interval ∈ expected, ∃ byte, interval.contains byte = true) :
    follow bits width expected bytes = .unfinished ↔
      ∃ char more, more ≠ [] ∧ follow bits width expected (bytes ++ more) = .character char [] := by
  induction expected generalizing bits width bytes with
  | nil => simp +contextual [follow]
  | cons interval expected ih =>
      cases bytes with
      | nil =>
          refine ⟨fun _ => ?_, fun _ => rfl⟩
          obtain ⟨more, hmore⟩ := exists_forall₂_contains hexpected
          refine ⟨_, more, ?_, follow_eq_character_iff.mpr ⟨more, hmore, by simp, rfl⟩⟩
          rintro rfl
          cases hmore
      | cons byte bytes =>
          by_cases hbyte : interval.contains byte = true
          · simp only [follow, if_pos hbyte, List.cons_append]
            exact ih fun interval hmem => hexpected interval (List.mem_cons_of_mem _ hmem)
          · simp [follow, hbyte]

/-- A break is noticed at one byte: those before it could still go on, and with it none can. -/
theorem follow_take_of_broken {bits width total : Nat} {expected : List Interval}
    {bytes rest : Bytes} (hfollow : follow bits width expected bytes = .broken total rest) :
    ∃ met, total = width + met ∧ follow bits width expected (bytes.take met) = .unfinished ∧
      follow bits width expected (bytes.take (met + 1)) ≠ .unfinished := by
  induction expected generalizing bits width bytes with
  | nil => simp [follow] at hfollow
  | cons interval expected ih =>
      cases bytes with
      | nil => simp [follow] at hfollow
      | cons byte bytes =>
          by_cases hbyte : interval.contains byte = true
          · rw [follow, if_pos hbyte] at hfollow
            obtain ⟨met, rfl, hmet, hbreak⟩ := ih hfollow
            refine ⟨met + 1, by omega, ?_, ?_⟩
            · rw [List.take_succ_cons, follow, if_pos hbyte, hmet]
            · rw [List.take_succ_cons, follow, if_pos hbyte]
              exact hbreak
          · rw [follow, if_neg hbyte] at hfollow
            obtain ⟨rfl, -⟩ := Front.broken.inj hfollow
            exact ⟨0, rfl, rfl, by simp [follow, hbyte]⟩

theorem front_eq_character_iff {byte : UInt8} {tail rest : Bytes} {char : Char} :
    front byte tail = .character char rest ↔ String.utf8EncodeChar char ++ rest = byte :: tail := by
  constructor
  · exact fun hfront => (utf8EncodeChar_of_front hfront).symm
  · intro hbytes
    cases hchar : String.utf8EncodeChar char with
    | nil => exact absurd hchar String.utf8EncodeChar_ne_nil
    | cons first more =>
        rw [hchar, List.cons_append] at hbytes
        obtain ⟨rfl, rfl⟩ := List.cons.inj hbytes
        exact front_of_utf8EncodeChar hchar rest

theorem front_eq_unfinished_iff {byte : UInt8} {tail : Bytes} :
    front byte tail = .unfinished ↔ Begun (byte :: tail) := by
  have hcompleted : front byte tail = .unfinished ↔
      ∃ char more, more ≠ [] ∧ front byte (tail ++ more) = .character char [] := by
    unfold front
    cases hlead : lead? byte with
    | none => simp
    | some lead => exact follow_eq_unfinished_iff (exists_contains_of_lead? hlead)
  simp [hcompleted, front_eq_character_iff, Begun]

theorem stops_of_front_broken {byte : UInt8} {tail rest : Bytes} {width : Nat}
    (hfront : front byte tail = .broken width rest) : Stops (some width) (byte :: tail) := by
  have hbegun : ∀ count, Begun ((byte :: tail).take (count + 1)) ↔
      front byte (tail.take count) = .unfinished := fun count => by
    rw [List.take_succ_cons, front_eq_unfinished_iff]
  cases hlead : lead? byte with
  | none =>
      simp only [front, hlead] at hfront hbegun
      obtain ⟨rfl, -⟩ := Front.broken.inj hfront
      exact .broken Nat.one_pos (.inl rfl) (mt (hbegun 1).mp Front.noConfusion)
  | some lead =>
      simp only [front, hlead] at hfront hbegun
      obtain ⟨met, rfl, hmet, hbreak⟩ := follow_take_of_broken hfront
      rw [Nat.add_comm]
      exact .broken met.succ_pos (.inr ((hbegun met).mpr hmet)) (mt (hbegun (met + 1)).mp hbreak)

/-! ## Reading to the first fault -/

/-- Whether some bytes begin with a character. -/
def StartsWithChar (bytes : Bytes) : Prop :=
  ∃ char rest, String.utf8EncodeChar char ++ rest = bytes

theorem utf8EncodeChar_append_inj {char char' : Char} {rest rest' : Bytes}
    (hbytes : String.utf8EncodeChar char ++ rest = String.utf8EncodeChar char' ++ rest') :
    char = char' ∧ rest = rest' := by
  cases hchar : String.utf8EncodeChar char with
  | nil => exact absurd hchar String.utf8EncodeChar_ne_nil
  | cons byte tail =>
      have hfront := front_of_utf8EncodeChar hchar rest
      rw [hchar, List.cons_append] at hbytes
      rw [front_eq_character_iff.mpr hbytes.symm] at hfront
      obtain ⟨rfl, rfl⟩ := Front.character.inj hfront
      exact ⟨rfl, rfl⟩

/-- A text that bytes begin with is no longer than one behind which no character stands. -/
theorem length_le_of_not_startsWithChar {chars chars' : List Char} {rest rest' : Bytes}
    (hrest : ¬ StartsWithChar rest)
    (hbytes : chars'.flatMap String.utf8EncodeChar ++ rest' =
      chars.flatMap String.utf8EncodeChar ++ rest) :
    (chars'.flatMap String.utf8EncodeChar).length ≤
      (chars.flatMap String.utf8EncodeChar).length := by
  induction chars' generalizing chars with
  | nil => simp
  | cons char' chars' ih =>
      rw [List.flatMap_cons, List.append_assoc] at hbytes
      cases chars with
      | nil => exact absurd ⟨char', _, hbytes⟩ hrest
      | cons char chars =>
          rw [List.flatMap_cons, List.append_assoc] at hbytes
          obtain ⟨rfl, htail⟩ := utf8EncodeChar_append_inj hbytes
          simpa using ih htail

/-- What is read before a fault is text, and what stands there begins with no character. -/
theorem exists_chars_of_decodeFrom {index : Nat} {bytes : Bytes} {fault : Fault}
    (hdecode : decodeFrom index bytes = .error fault) :
    ∃ (chars : List Char) (rest : Bytes), chars.flatMap String.utf8EncodeChar ++ rest = bytes ∧
      fault.index = index + (chars.flatMap String.utf8EncodeChar).length ∧ rest ≠ [] ∧
      ¬ StartsWithChar rest ∧ Stops fault.width rest := by
  fun_induction decodeFrom index bytes generalizing fault with
  | case1 => cases hdecode
  | case2 index byte bytes char rest hfront ih =>
      cases hrest : decodeFrom (index + char.utf8Size) rest with
      | ok chars => simp [hrest, Except.map] at hdecode
      | error fault' =>
          simp only [hrest, Except.map, Except.error.injEq] at hdecode
          subst hdecode
          obtain ⟨chars, last, rfl, hindex, hlast⟩ := ih hrest
          refine ⟨char :: chars, last, ?_, ?_, hlast⟩
          · rw [List.flatMap_cons, List.append_assoc, front_eq_character_iff.mp hfront]
          · rw [hindex, List.flatMap_cons, List.length_append, String.length_utf8EncodeChar,
              Nat.add_assoc]
  | case3 index byte bytes width rest hfront =>
      cases hdecode
      refine ⟨[], _, rfl, rfl, List.cons_ne_nil _ _, ?_, stops_of_front_broken hfront⟩
      rintro ⟨char, rest', hchar⟩
      simp [front_eq_character_iff.mpr hchar] at hfront
  | case4 index byte bytes hfront =>
      cases hdecode
      refine ⟨[], _, rfl, rfl, List.cons_ne_nil _ _, ?_,
        .unfinished (front_eq_unfinished_iff.mp hfront)⟩
      rintro ⟨char, rest', hchar⟩
      simp [front_eq_character_iff.mpr hchar] at hfront

theorem marks_of_decode {bytes : Bytes} {fault : Fault} (hdecode : decode bytes = .error fault) :
    fault.Marks bytes := by
  cases hchars : decodeFrom 0 bytes with
  | ok chars => simp [decode, hchars, Except.map] at hdecode
  | error fault' =>
      simp only [decode, hchars, Except.map, Except.error.injEq] at hdecode
      subst hdecode
      obtain ⟨chars, rest, rfl, hindex, hne, hrest, hstops⟩ := exists_chars_of_decodeFrom hchars
      rw [Nat.zero_add] at hindex
      have htext : encode (String.ofList chars) = chars.flatMap String.utf8EncodeChar := by
        rw [encode, String.toList_ofList]
      refine ⟨?_, ⟨String.ofList chars, ?_⟩, ?_, ?_⟩
      · have hpos := List.length_pos_iff.mpr hne
        rw [hindex, List.length_append]
        omega
      · rw [htext, hindex, List.take_left]
      · rintro text ⟨rest', hbytes⟩
        rw [hindex]
        exact length_le_of_not_startsWithChar hrest hbytes
      · rw [hindex, List.drop_left]
        exact hstops

theorem Fault.Marks.index_le {bytes : Bytes} {fault fault' : Fault} (hmarks : fault.Marks bytes)
    (hmarks' : fault'.Marks bytes) : fault.index ≤ fault'.index := by
  obtain ⟨text, htext⟩ := hmarks.text
  have hlongest := hmarks'.longest text (htext ▸ List.take_prefix _ _)
  rwa [htext, List.length_take, Nat.min_eq_left hmarks.index_lt.le] at hlongest

theorem Fault.Marks.unique {bytes : Bytes} {fault fault' : Fault} (hmarks : fault.Marks bytes)
    (hmarks' : fault'.Marks bytes) : fault = fault' := by
  have hindex := Nat.le_antisymm (hmarks.index_le hmarks') (hmarks'.index_le hmarks)
  have hstops := hmarks.stops
  rw [hindex] at hstops
  have hwidth := hstops.unique hmarks'.stops
  cases fault
  cases fault'
  exact (Fault.mk.injEq ..).mpr ⟨hindex, hwidth⟩

/-- Bytes are refused exactly for the fault that marks where their text stops. -/
theorem decode_eq_error_iff {bytes : Bytes} {fault : Fault} :
    decode bytes = .error fault ↔ fault.Marks bytes := by
  refine ⟨marks_of_decode, fun hmarks => ?_⟩
  cases hdecode : decode bytes with
  | ok text =>
      have hencode := decode_eq_ok_iff.mp hdecode
      have hlongest := hmarks.longest text (hencode ▸ List.prefix_refl _)
      rw [hencode] at hlongest
      exact absurd hmarks.index_lt hlongest.not_gt
  | error fault' => rw [(marks_of_decode hdecode).unique hmarks]

end Utf8

end KerberosLogin
