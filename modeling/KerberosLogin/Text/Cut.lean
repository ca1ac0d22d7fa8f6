/-! # Text in two parts

A text is cut at the first or at the last occurrence of a separator. The separator
belongs to neither part, so that the two parts with the separator between them are
the text again.
-/

namespace KerberosLogin

namespace Cut

/-- The characters before the first separator, and those after it. -/
def first? (separator : Char) : List Char → Option (List Char × List Char)
  | [] => none
  | char :: rest =>
    if char = separator then some ([], rest)
    else (first? separator rest).map fun (before, after) => (char :: before, after)

/-- The characters before the last separator, and those after it. -/
def last? (separator : Char) (text : List Char) : Option (List Char × List Char) :=
  (first? separator text.reverse).map fun (before, after) => (after.reverse, before.reverse)

theorem eq_append_of_first? {separator : Char} {text before after : List Char}
    (cut : first? separator text = some (before, after)) :
    text = before ++ separator :: after ∧ separator ∉ before := by
  induction text generalizing before with
  | nil => simp [first?] at cut
  | cons char rest ih =>
    rw [first?] at cut
    split at cut
    case isTrue same =>
      simp only [Option.some.injEq, Prod.mk.injEq] at cut
      obtain ⟨rfl, rfl⟩ := cut
      simp [same]
    case isFalse other =>
      obtain ⟨⟨start, stop⟩, found, joined⟩ := Option.map_eq_some_iff.1 cut
      simp only [Prod.mk.injEq] at joined
      obtain ⟨rfl, rfl⟩ := joined
      obtain ⟨rfl, absent⟩ := ih found
      exact ⟨rfl, by simp [absent, Ne.symm other]⟩

theorem first?_eq_none_iff {separator : Char} {text : List Char} :
    first? separator text = none ↔ separator ∉ text := by
  induction text with
  | nil => simp [first?]
  | cons char rest ih =>
    by_cases same : char = separator
    · simp [first?, same]
    · simp [first?, same, ih, Ne.symm same]

theorem first?_append {separator : Char} {before : List Char} (absent : separator ∉ before)
    (after : List Char) :
    first? separator (before ++ separator :: after) = some (before, after) := by
  induction before with
  | nil => simp [first?]
  | cons char before ih =>
    obtain ⟨other, absent⟩ := not_or.1 (mt List.mem_cons.2 absent)
    simp [first?, Ne.symm other, ih absent]

end Cut

end KerberosLogin
