import KerberosLogin.Text.Shown
import Mathlib.Data.List.Basic
import Mathlib.Data.Nat.Init

/-! # Reading back what is shown

Bytes and text that are shown can be read back. The numbers of bytes have no comma and no blank
in them, and no character inside quotes begins another one.
-/

namespace KerberosLogin

namespace Shown

/-! ## Digits -/

theorem eq_of_digitChar_eq {first second : Nat} (hfirst : first < 16) (hsecond : second < 16)
    (hsame : Nat.digitChar first = Nat.digitChar second) : first = second := by
  have hall : ∀ first < 16, ∀ second < 16,
      Nat.digitChar first = Nat.digitChar second → first = second := by decide
  exact hall first hfirst second hsecond hsame

theorem toDigits_injective {base : Nat} (hbase : 1 < base) (hsmall : base ≤ 16) :
    Function.Injective (Nat.toDigits base) := by
  intro first
  -- The last digit is the remainder, and what comes before it is the quotient.
  induction first using Nat.strongRecOn with
  | ind first ih =>
      intro second hsame
      rcases Nat.lt_or_ge first base with hfirst | hfirst <;>
        rcases Nat.lt_or_ge second base with hsecond | hsecond
      · rw [Nat.toDigits_of_lt_base hfirst, Nat.toDigits_of_lt_base hsecond] at hsame
        exact eq_of_digitChar_eq (by omega) (by omega) (List.singleton_inj.mp hsame)
      · rw [Nat.toDigits_of_lt_base hfirst, Nat.toDigits_of_base_le hbase hsecond] at hsame
        have hlength := congrArg List.length hsame
        simp at hlength
      · rw [Nat.toDigits_of_base_le hbase hfirst, Nat.toDigits_of_lt_base hsecond] at hsame
        have hlength := congrArg List.length hsame
        simp at hlength
      · rw [Nat.toDigits_of_base_le hbase hfirst, Nat.toDigits_of_base_le hbase hsecond] at hsame
        obtain ⟨hquotients, hremainders⟩ := List.append_inj' hsame rfl
        have hquotient := ih _ (Nat.div_lt_self (by omega) hbase) hquotients
        have hmod : first % base < base := Nat.mod_lt _ (by omega)
        have hmod' : second % base < base := Nat.mod_lt _ (by omega)
        have hremainder := eq_of_digitChar_eq (by omega) (by omega)
          (List.singleton_inj.mp hremainders)
        rw [← Nat.div_add_mod first base, hquotient, hremainder, Nat.div_add_mod]

theorem not_mem_toDigits {base : Nat} (hbase : 1 < base) {char : Char}
    (hchar : ∀ digit < base, char ≠ Nat.digitChar digit) (n : Nat) :
    char ∉ Nat.toDigits base n := by
  induction n using Nat.strongRecOn with
  | ind n ih =>
      rcases Nat.lt_or_ge n base with hn | hn
      · rw [Nat.toDigits_of_lt_base hn, List.mem_singleton]
        exact hchar n hn
      · rw [Nat.toDigits_of_base_le hbase hn, List.mem_append, List.mem_singleton, not_or]
        exact ⟨ih _ (Nat.div_lt_self (by omega) hbase), hchar _ (Nat.mod_lt _ (by omega))⟩

theorem append_cons_inj {mark : Char} {word word' rest rest' : List Char} (hword : mark ∉ word)
    (hword' : mark ∉ word') (hsame : word ++ mark :: rest = word' ++ mark :: rest') :
    word = word' ∧ rest = rest' := by
  have htake : ∀ {word rest : List Char}, mark ∉ word →
      (word ++ mark :: rest).takeWhile (· ≠ mark) = word := by
    intro word rest hword
    rw [List.takeWhile_append_of_pos]
    · simp
    · intro char hchar
      have hmark : char ≠ mark := fun hsame => hword (hsame ▸ hchar)
      simpa using hmark
  have hwords : word = word' := by rw [← htake hword, hsame, htake hword']
  subst hwords
  exact ⟨rfl, (List.cons.inj (List.append_cancel_left hsame)).2⟩

/-! ## Bytes -/

/-- The digits that a byte is shown with. -/
def digits (byte : UInt8) : List Char :=
  Nat.toDigits 10 byte.toNat

theorem toList_bytes (value : Bytes) :
    (bytes value).toList = '[' :: [',', ' '].intercalate (value.map digits) ++ [']'] := by
  have hdigits : digits = fun byte => Nat.toDigits 10 byte.toNat := rfl
  simp [bytes, hdigits, Function.comp_def]

theorem digits_injective : Function.Injective digits := by
  intro byte byte' hsame
  exact UInt8.toNat_inj.mp (toDigits_injective (by decide) (by decide) hsame)

theorem not_mem_digits {char : Char} (hchar : ∀ digit < 10, char ≠ Nat.digitChar digit)
    (value : Bytes) : ∀ word ∈ value.map digits, char ∉ word := by
  intro word hword
  obtain ⟨byte, -, rfl⟩ := List.mem_map.mp hword
  exact not_mem_toDigits (by decide) hchar byte.toNat

theorem filter_intercalate {words : List (List Char)} (hwords : ∀ word ∈ words, ' ' ∉ word) :
    ([',', ' '].intercalate words).filter (· ≠ ' ') = [','].intercalate words := by
  induction words with
  | nil => rfl
  | cons word words ih =>
      have hword : word.filter (· ≠ ' ') = word := by
        apply List.filter_eq_self.mpr
        intro char hchar
        have hblank : char ≠ ' ' := by
          rintro rfl
          exact hwords word List.mem_cons_self hchar
        simpa using hblank
      cases words with
      | nil => simpa using hword
      | cons next words =>
          have hrest := ih fun other hother => hwords other (List.mem_cons_of_mem _ hother)
          rw [List.intercalate_cons_cons, List.intercalate_cons_cons, List.filter_append,
            List.filter_append, hword, hrest]
          rfl

theorem intercalate_digits_eq_nil_iff {value : Bytes} :
    [','].intercalate (value.map digits) = [] ↔ value = [] := by
  rcases value with _ | ⟨byte, _ | ⟨next, value⟩⟩
  · simp
  · simp [digits]
  · simp [List.intercalate_cons_cons]

theorem bytes_injective : Function.Injective bytes := by
  intro value value' hsame
  have hchars : [',', ' '].intercalate (value.map digits) =
      [',', ' '].intercalate (value'.map digits) := by
    have hlists := congrArg String.toList hsame
    simpa [toList_bytes] using hlists
  have hnumbers : [','].intercalate (value.map digits) =
      [','].intercalate (value'.map digits) := by
    have hblanks := congrArg (List.filter (· ≠ ' ')) hchars
    rwa [filter_intercalate (not_mem_digits (by decide) value),
      filter_intercalate (not_mem_digits (by decide) value')] at hblanks
  by_cases hvalue : value = []
  · rw [intercalate_digits_eq_nil_iff.mpr hvalue] at hnumbers
    rw [hvalue, intercalate_digits_eq_nil_iff.mp hnumbers.symm]
  · have hvalue' : value' ≠ [] := by
      intro hnil
      rw [intercalate_digits_eq_nil_iff.mpr hnil] at hnumbers
      exact hvalue (intercalate_digits_eq_nil_iff.mp hnumbers)
    have hsplit := List.splitOn_intercalate ',' (not_mem_digits (by decide) value)
      (by simpa using hvalue)
    have hsplit' := List.splitOn_intercalate ',' (not_mem_digits (by decide) value')
      (by simpa using hvalue')
    apply List.map_injective_iff.mpr digits_injective
    rw [← hsplit, hnumbers, hsplit']

/-! ## Quoted text -/

/-- The character that a letter after a backslash stands for. -/
def unescaped? : Char → Option Char
  | '"' => some '"'
  | '\\' => some '\\'
  | 'n' => some '\n'
  | 'r' => some '\r'
  | 't' => some '\t'
  | '0' => some '\x00'
  | _ => none

/-- The three ways in which a character is shown inside quotes. -/
inductive Quotes (char : Char) : List Char → Prop where
  | plain (hplain : char ≠ '\\') : Quotes char [char]
  | escaped {letter : Char} (hletter : unescaped? letter = some char) :
      Quotes char ['\\', letter]
  | coded : Quotes char (['\\', 'u', '\x7b'] ++ Nat.toDigits 16 char.toNat ++ ['\x7d'])

theorem quotes_quotedChar (char : Char) : Quotes char (quotedChar char) := by
  unfold quotedChar
  split_ifs with hquote hbackslash hnewline hreturn htab hzero
  · subst hquote
    exact .escaped rfl
  · subst hbackslash
    exact .escaped rfl
  · subst hnewline
    exact .escaped rfl
  · subst hreturn
    exact .escaped rfl
  · subst htab
    exact .escaped rfl
  · subst hzero
    exact .escaped rfl
  · exact .coded
  · exact .plain hbackslash

theorem Quotes.ne_nil {char : Char} {shown : List Char} (hchar : Quotes char shown) :
    shown ≠ [] := by
  cases hchar <;> simp

/-- No character inside quotes begins another one. -/
theorem Quotes.append_inj {char char' : Char} {shown shown' rest rest' : List Char}
    (hchar : Quotes char shown) (hchar' : Quotes char' shown')
    (hsame : shown ++ rest = shown' ++ rest') : char = char' ∧ rest = rest' := by
  cases hchar with
  | plain hplain =>
      cases hchar' with
      | plain => simpa using hsame
      | escaped | coded => simp [hplain] at hsame
  | escaped hletter =>
      cases hchar' with
      | plain hplain' => simp [Ne.symm hplain'] at hsame
      | escaped hletter' =>
          simp only [List.cons_append, List.nil_append, List.cons.injEq, true_and] at hsame
          obtain ⟨rfl, hrest⟩ := hsame
          exact ⟨Option.some.inj (hletter.symm.trans hletter'), hrest⟩
      | coded =>
          simp only [List.cons_append, List.cons.injEq, true_and] at hsame
          rw [hsame.1] at hletter
          cases hletter
  | coded =>
      cases hchar' with
      | plain hplain' => simp [Ne.symm hplain'] at hsame
      | escaped hletter' =>
          simp only [List.cons_append, List.cons.injEq, true_and] at hsame
          rw [← hsame.1] at hletter'
          cases hletter'
      | coded =>
          have hdigits : Nat.toDigits 16 char.toNat ++ '\x7d' :: rest =
              Nat.toDigits 16 char'.toNat ++ '\x7d' :: rest' := by simpa using hsame
          obtain ⟨hcode, hrest⟩ := append_cons_inj (not_mem_toDigits (by decide) (by decide) _)
            (not_mem_toDigits (by decide) (by decide) _) hdigits
          exact ⟨Char.toNat_inj.mp (toDigits_injective (by decide) (by decide) hcode), hrest⟩

theorem quoted_injective : Function.Injective quoted := by
  intro text text' hsame
  have hchars : text.toList.flatMap quotedChar = text'.toList.flatMap quotedChar := by
    have hlists := congrArg String.toList hsame
    simpa [quoted] using hlists
  apply String.toList_inj.mp
  generalize text.toList = chars at hchars ⊢
  generalize text'.toList = chars' at hchars ⊢
  induction chars generalizing chars' with
  | nil =>
      cases chars' with
      | nil => rfl
      | cons char' chars' => simp [(quotes_quotedChar char').ne_nil] at hchars
  | cons char chars ih =>
      cases chars' with
      | nil => simp [(quotes_quotedChar char).ne_nil] at hchars
      | cons char' chars' =>
          rw [List.flatMap_cons, List.flatMap_cons] at hchars
          obtain ⟨rfl, hrest⟩ :=
            (quotes_quotedChar char).append_inj (quotes_quotedChar char') hchars
          rw [ih chars' hrest]

/-! ## Names with an argument -/

theorem call_injective (name : String) : Function.Injective (call name) := by
  intro argument argument' hsame
  simpa [call] using hsame

end Shown

end KerberosLogin
