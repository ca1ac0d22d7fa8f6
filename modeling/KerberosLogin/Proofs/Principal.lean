import KerberosLogin.Principal
import KerberosLogin.Text.Cut
import Mathlib.Data.Set.Function

/-! # Writing and reading principals

Every text is the written form of the principal that is read from it. The other way round, the
first `@` of the written form is the one that was written, unless the user brings an `@` of its
own. A user that was read never does. So the principals without an `@` in the user are those
that are read, and their written forms are all texts, each of them once.
-/

namespace KerberosLogin

namespace Principal

/-- An identity is cut at its first `@`. -/
theorem split_eq_elim (identity : List Char) :
    split identity =
      (Cut.first? '@' identity).elim (identity, none) fun (user, realm) => (user, some realm) := by
  induction identity with
  | nil => rfl
  | cons char identity ih =>
      by_cases hchar : char = '@'
      · simp only [split, Cut.first?, if_pos hchar, Option.elim_some]
      · simp only [split, Cut.first?, if_neg hchar, ih]
        cases Cut.first? '@' identity <;> rfl

theorem split_of_not_mem {user : List Char} (huser : '@' ∉ user) : split user = (user, none) := by
  rw [split_eq_elim, Cut.first?_eq_none_iff.mpr huser, Option.elim_none]

theorem split_append_cons {user : List Char} (huser : '@' ∉ user) (realm : List Char) :
    split (user ++ '@' :: realm) = (user, some realm) := by
  rw [split_eq_elim, Cut.first?_append huser, Option.elim_some]

theorem not_mem_split (identity : List Char) : '@' ∉ (split identity).1 := by
  rw [split_eq_elim]
  cases hcut : Cut.first? '@' identity with
  | none => exact Cut.first?_eq_none_iff.mp hcut
  | some parts => exact (Cut.eq_append_of_first? hcut).2

/-- A principal that was read has no `@` in its user. -/
theorem not_mem_user_parse (identity : String) : '@' ∉ (parse identity).user.toList := by
  have huser : (parse identity).user = String.ofList (split identity.toList).1 := rfl
  rw [huser, String.toList_ofList]
  exact not_mem_split identity.toList

/-- A principal is read back as it was written, if its user has no `@`. -/
theorem parse_render {principal : Principal} (huser : '@' ∉ principal.user.toList) :
    parse principal.render = principal := by
  obtain ⟨user, _ | realm⟩ := principal
  · have hsplit := split_of_not_mem huser
    simp only [parse, render, hsplit, Option.map_none, String.ofList_toList]
  · have hsplit := split_append_cons huser realm.toList
    have htext : (user ++ "@" ++ realm).toList = user.toList ++ '@' :: realm.toList := by simp
    simp only [parse, render, htext, hsplit, Option.map_some, String.ofList_toList]

/-! ## Nothing is lost by reading -/

theorem eq_of_split {identity user : List Char} {realm : Option (List Char)}
    (hsplit : split identity = (user, realm)) :
    identity = user ++ realm.elim [] ('@' :: ·) := by
  rw [split_eq_elim] at hsplit
  cases hcut : Cut.first? '@' identity with
  | none =>
      rw [hcut] at hsplit
      obtain ⟨rfl, rfl⟩ := Prod.mk.inj hsplit
      exact (List.append_nil _).symm
  | some parts =>
      rw [hcut] at hsplit
      obtain ⟨rfl, rfl⟩ := Prod.mk.inj hsplit
      exact (Cut.eq_append_of_first? hcut).1

theorem render_parse (identity : String) : (parse identity).render = identity := by
  rcases hsplit : split identity.toList with ⟨user, realm⟩
  have hread : parse identity = ⟨String.ofList user, realm.map String.ofList⟩ := by
    rw [parse, hsplit]
  apply String.toList_injective
  rw [hread, eq_of_split hsplit]
  cases realm with
  | none => simp [render]
  | some realm => simp [render]

/-! ## Which principals are read back -/

theorem parse_render_iff {principal : Principal} :
    parse principal.render = principal ↔ '@' ∉ principal.user.toList := by
  refine ⟨fun hread => ?_, parse_render⟩
  rw [← hread]
  exact not_mem_user_parse principal.render

theorem render_injOn : Set.InjOn render {principal | '@' ∉ principal.user.toList} := by
  intro principal huser principal' huser' hwritten
  rw [← parse_render huser, hwritten, parse_render huser']

/-- An empty realm is written down as an `@` at the end. -/
theorem render_eq_render_iff {user user' : String} :
    render ⟨user, none⟩ = render ⟨user', some ""⟩ ↔ user = user' ++ "@" := by
  simp only [render, String.append_empty]

/-- A text is read as a principal that is written as this text. A principal is read back as it
was if and only if there is no `@` in its user: such principals are told apart by their written
forms, and so is one without a realm from any whose realm is empty. No principal is written the
same with an empty realm as without one, and what was read is read again as it is. -/
theorem written_form_read_back :
    (∀ identity, (parse identity).render = identity) ∧
      (∀ principal, parse principal.render = principal ↔ '@' ∉ principal.user.toList) ∧
      Set.InjOn render {principal | '@' ∉ principal.user.toList} ∧
      (∀ user, '@' ∉ user.toList → ∀ user', render ⟨user, none⟩ ≠ render ⟨user', some ""⟩) ∧
      (∀ user, render ⟨user, none⟩ ≠ render ⟨user, some ""⟩) ∧
      ∀ identity, parse (parse identity).render = parse identity := by
  refine ⟨render_parse, fun _ => parse_render_iff, render_injOn, ?_, ?_, ?_⟩
  · intro user huser user' hwritten
    rw [render_eq_render_iff] at hwritten
    simp [hwritten] at huser
  · intro user hwritten
    have hlength := congrArg String.length (render_eq_render_iff.mp hwritten)
    simp at hlength
  · intro identity
    rw [render_parse]

/-- The second `@` belongs to the realm, and an `@` at the end is followed by an empty one. -/
example : parse "svc@a@B" = ⟨"svc", some "a@B"⟩ ∧ parse "a@" = ⟨"a", some ""⟩ ∧
    render ⟨"a@", none⟩ = "a@" := by decide

end Principal

end KerberosLogin
