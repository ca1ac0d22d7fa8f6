import KerberosLogin.Proofs.Action

/-! # Recording actions

An action is recorded by writing down, behind what is there already, how it was
answered. The recording itself goes unnoticed. What an action leaves behind is then
told by the events it has added, by the notes that an observer sees, and by the result.
Where the order does not matter, the kind of the events is enough.
-/

namespace KerberosLogin

variable {ω ν μ δ ε α β : Type}

/-- What an action leaves behind, without what was written down. -/
def Outcome.unrecorded (outcome : Outcome (List ε × ω) ν α) : Outcome ω ν α :=
  ⟨outcome.result, outcome.state.2, outcome.notes⟩

namespace Action

/-- Runs an action and writes down how it was answered. -/
def recorded (event : Except AuthError α → ε) (action : Action ω ν α) :
    Action (List ε × ω) ν α where
  run := fun (trace, shared) =>
    let outcome := action.run shared
    ⟨outcome.result, (trace ++ [event outcome.result], outcome.state), outcome.notes⟩

theorem recorded_related {V : α → α → Prop} (hvalue : ∀ value, V value value)
    (event : Except AuthError α → ε) (action : Action ω ν α) :
    Related (fun recorded shared => recorded.2 = shared) some some V (action.recorded event)
      action := by
  intro state shared hshared
  subst hshared
  exact ⟨Outcome.resultsRelated_refl hvalue _, rfl, rfl⟩

/-- What a recording does is what is done without it. -/
theorem Related.unrecorded_eq {action : Action (List ε × ω) ν α} {action' : Action ω ν α}
    (haction : Related (fun recorded shared => recorded.2 = shared) some some Eq action action')
    (trace : List ε) (shared : ω) :
    (action.run (trace, shared)).unrecorded = action'.run shared := by
  obtain ⟨hresult, hstate, hnotes⟩ := haction (trace, shared) shared rfl
  rw [List.filterMap_some, List.filterMap_some] at hnotes
  unfold Outcome.unrecorded
  rw [Outcome.eq_of_resultsRelated hresult, hstate, hnotes]

theorem Ends.recorded {action : Action ω ν α} {shared last : ω} {result : Except AuthError α}
    (haction : action.Ends shared result last) (event : Except AuthError α → ε) (trace : List ε) :
    (action.recorded event).Ends (trace, shared) result (trace ++ [event result], last) := by
  obtain ⟨notes, hrun⟩ := haction
  exact ⟨notes, by simp only [Action.recorded, hrun]⟩

/-- Traces that go on alike from two beginnings. -/
def ContinuedAlike (before before' trace trace' : List ε) : Prop :=
  ∃ later, trace = before ++ later ∧ trace' = before' ++ later

/-- Actions that correspond are recorded alike. -/
theorem Related.recorded {ω' ν' : Type} {W : ω → ω' → Prop} {see : ν → Option δ}
    {see' : ν' → Option δ} {action : Action ω ν α} {action' : Action ω' ν' α}
    (haction : Related W see see' Eq action action') (event : Except AuthError α → ε)
    (before before' : List ε) :
    Related (Outcome.PairRelated (ContinuedAlike before before') W) see see' Eq
      (action.recorded event) (action'.recorded event) := by
  rintro ⟨_, shared⟩ ⟨_, shared'⟩ ⟨⟨later, rfl, rfl⟩, hshared⟩
  obtain ⟨hresult, hreached, hnotes⟩ := haction shared shared' hshared
  refine ⟨hresult, ⟨⟨later ++ [event (action.run shared).result], ?_, ?_⟩, hreached⟩, hnotes⟩
  · exact List.append_assoc ..
  · rw [Outcome.eq_of_resultsRelated hresult]
    exact List.append_assoc ..

/-- Whether an action from a state ends as `finish` says: of the events it adds, of the
notes that are seen, and of the result. -/
def Leaves (see : ν → Option δ) (action : Action (List ε × ω) ν α) (state : List ε × ω)
    (finish : List ε → List δ → Except AuthError α → Prop) : Prop :=
  ∃ events, (action.run state).state.1 = state.1 ++ events ∧
    finish events ((action.run state).notes.filterMap see) (action.run state).result

namespace Leaves

variable {see : ν → Option δ} {state : List ε × ω}

theorem ofExcept {result : Except AuthError α}
    {finish : List ε → List δ → Except AuthError α → Prop} (hfinish : finish [] [] result) :
    (Action.ofExcept result).Leaves see state finish :=
  ⟨[], (List.append_nil _).symm, hfinish⟩

theorem pure {value : α} {finish : List ε → List δ → Except AuthError α → Prop}
    (hfinish : finish [] [] (.ok value)) :
    (Pure.pure value : Action _ ν α).Leaves see state finish :=
  ofExcept hfinish

theorem fail {error : AuthError} {finish : List ε → List δ → Except AuthError α → Prop}
    (hfinish : finish [] [] (.error error)) :
    (Action.fail error : Action _ ν α).Leaves see state finish :=
  ofExcept hfinish

theorem bind {action : Action (List ε × ω) ν α} {next : α → Action (List ε × ω) ν β}
    {middle : List ε → List δ → Except AuthError α → Prop}
    {finish : List ε → List δ → Except AuthError β → Prop}
    (haction : action.Leaves see state middle)
    (herror : ∀ events notes error, middle events notes (.error error) →
      finish events notes (.error error))
    (hok : ∀ events notes value reached, middle events notes (.ok value) →
      (next value).Leaves see reached fun later more => finish (events ++ later) (notes ++ more)) :
    (action >>= next).Leaves see state finish := by
  obtain ⟨events, htrace, hmiddle⟩ := haction
  unfold Leaves
  rw [run_bind]
  generalize action.run state = outcome at htrace hmiddle ⊢
  rcases outcome with ⟨error | value, reached, notes⟩
  · exact ⟨events, htrace, herror _ _ _ hmiddle⟩
  · obtain ⟨later, hlater, hfinish⟩ := hok _ _ _ reached hmiddle
    refine ⟨events ++ later, ?_, ?_⟩
    · rw [Outcome.andThen_ok, hlater, htrace, List.append_assoc]
    · rw [Outcome.andThen_ok, List.filterMap_append]
      exact hfinish

theorem note_bind {entry : ν} {next : Unit → Action (List ε × ω) ν α}
    {finish : List ε → List δ → Except AuthError α → Prop}
    (hnext : (next ()).Leaves see state fun events notes =>
      finish events ((see entry).toList ++ notes)) :
    (Action.note entry >>= next).Leaves see state finish := by
  obtain ⟨events, htrace, hfinish⟩ := hnext
  refine ⟨events, htrace, ?_⟩
  rw [run_bind, run_note, Outcome.andThen_ok, List.filterMap_append]
  have hentry : [entry].filterMap see = (see entry).toList := by
    cases hsee : see entry <;> simp [hsee]
  rw [hentry]
  exact hfinish

/-- A recorded action whose own notes are not seen. -/
theorem recorded {event : Except AuthError α → ε} {action : Action ω μ α} {reword : μ → ν}
    {finish : List ε → List δ → Except AuthError α → Prop}
    (hreword : ∀ entry, see (reword entry) = none)
    (hfinish : ∀ answer, finish [event answer] [] answer) :
    ((action.recorded event).mapNotes reword).Leaves see state finish := by
  refine ⟨[_], rfl, ?_⟩
  have hnotes : ((action.run state.2).notes.map reword).filterMap see = [] := by
    simp [hreword]
  rw [run_mapNotes]
  exact hnotes ▸ hfinish _

theorem attempt {action : Action (List ε × ω) ν α}
    {finish : List ε → List δ → Except AuthError (Except AuthError α) → Prop}
    (haction : action.Leaves see state fun events notes answer =>
      finish events notes (.ok answer)) :
    action.attempt.Leaves see state finish :=
  haction

end Leaves

/-- Whether all that an action writes down, wherever it starts, is of a kind. -/
def AddsOnly (kind : ε → Prop) (action : Action (List ε × ω) ν α) : Prop :=
  ∀ state, ∃ events, (action.run state).state.1 = state.1 ++ events ∧
    ∀ event ∈ events, kind event

namespace AddsOnly

variable {kind : ε → Prop}

theorem ofExcept (result : Except AuthError α) :
    (Action.ofExcept result : Action (List ε × ω) ν α).AddsOnly kind := by
  intro state
  exact ⟨[], (List.append_nil _).symm, nofun⟩

theorem pure (value : α) : (Pure.pure value : Action (List ε × ω) ν α).AddsOnly kind :=
  ofExcept (.ok value)

theorem fail (error : AuthError) : (Action.fail error : Action (List ε × ω) ν α).AddsOnly kind :=
  ofExcept (.error error)

theorem bind {action : Action (List ε × ω) ν α} {next : α → Action (List ε × ω) ν β}
    (haction : action.AddsOnly kind) (hnext : ∀ value, (next value).AddsOnly kind) :
    (action >>= next).AddsOnly kind := by
  intro state
  obtain ⟨events, htrace, hevents⟩ := haction state
  rw [run_bind]
  generalize action.run state = outcome at htrace ⊢
  rcases outcome with ⟨error | value, reached, notes⟩
  · exact ⟨events, htrace, hevents⟩
  · obtain ⟨later, hlater, hmore⟩ := hnext value reached
    refine ⟨events ++ later, ?_, ?_⟩
    · rw [Outcome.andThen_ok, hlater, htrace, List.append_assoc]
    · intro event hevent
      exact (List.mem_append.mp hevent).elim (hevents event) (hmore event)

theorem note_bind {entry : ν} {next : Unit → Action (List ε × ω) ν α}
    (hnext : (next ()).AddsOnly kind) : (Action.note entry >>= next).AddsOnly kind := by
  apply AddsOnly.bind _ fun _ => hnext
  intro state
  exact ⟨[], (List.append_nil _).symm, nofun⟩

theorem attempt {action : Action (List ε × ω) ν α} (haction : action.AddsOnly kind) :
    action.attempt.AddsOnly kind :=
  haction

theorem mapNotes {action : Action (List ε × ω) ν α} (reword : ν → μ)
    (haction : action.AddsOnly kind) : (action.mapNotes reword).AddsOnly kind :=
  haction

end AddsOnly

end Action

end KerberosLogin
