import KerberosLogin.Action

/-! # Running and comparing actions

An action is run one part after the other by `run_bind`. Two actions correspond
when, from corresponding states, they end alike: both in corresponding values or
both in the same error, in corresponding states, and with the same notes as far
as two observers see them. What the correspondence relates is left open; it is
kept by everything that actions are put together with. So is silence towards an
observer, and success with a given value and state.
-/

namespace KerberosLogin

variable {σ τ ω ω' ν ν' μ μ' δ ε α α' β β' : Type}

namespace Outcome

/-- Goes on from an outcome, unless it is a failure. -/
def andThen (first : Outcome σ ν α) (next : α → σ → Outcome σ ν β) : Outcome σ ν β :=
  match first.result with
  | .error error => ⟨.error error, first.state, first.notes⟩
  | .ok value =>
    let second := next value first.state
    ⟨second.result, second.state, first.notes ++ second.notes⟩

@[simp]
theorem andThen_error (error : AuthError) (state : σ) (notes : List ν)
    (next : α → σ → Outcome σ ν β) :
    andThen ⟨.error error, state, notes⟩ next = ⟨.error error, state, notes⟩ := rfl

@[simp]
theorem andThen_ok (value : α) (state : σ) (notes : List ν) (next : α → σ → Outcome σ ν β) :
    andThen ⟨.ok value, state, notes⟩ next =
      ⟨(next value state).result, (next value state).state,
        notes ++ (next value state).notes⟩ := rfl

/-- Both a success with values that correspond, or both the same failure. -/
def ResultsRelated (V : α → α' → Prop) : Except AuthError α → Except AuthError α' → Prop
  | .ok value, .ok value' => V value value'
  | .error error, .error error' => error = error'
  | _, _ => False

theorem resultsRelated_refl {V : α → α → Prop} (hvalue : ∀ value, V value value)
    (result : Except AuthError α) : ResultsRelated V result result := by
  cases result with
  | error error => rfl
  | ok value => exact hvalue value

theorem eq_of_resultsRelated {result result' : Except AuthError α}
    (hresult : ResultsRelated Eq result result') : result = result' := by
  cases result <;> cases result'
  · exact congrArg _ hresult
  · exact hresult.elim
  · exact hresult.elim
  · exact congrArg _ hresult

/-- Pairs whose parts correspond. -/
def PairRelated (S : σ → τ → Prop) (W : ω → ω' → Prop) (state : σ × ω) (state' : τ × ω') : Prop :=
  S state.1 state'.1 ∧ W state.2 state'.2

/-- Outcomes that correspond. The observers say what they make of a note, if they
see it. -/
structure Related (S : σ → τ → Prop) (see : ν → Option δ) (see' : ν' → Option δ)
    (V : α → α' → Prop) (outcome : Outcome σ ν α) (outcome' : Outcome τ ν' α') : Prop where
  result : ResultsRelated V outcome.result outcome'.result
  state : S outcome.state outcome'.state
  notes : outcome.notes.filterMap see = outcome'.notes.filterMap see'

end Outcome

namespace Action

theorem run_bind (action : Action σ ν α) (next : α → Action σ ν β) (state : σ) :
    (action >>= next).run state =
      (action.run state).andThen fun value reached => (next value).run reached := rfl

theorem ofExcept_error_bind (error : AuthError) (next : α → Action σ ν β) :
    Action.ofExcept (.error error) >>= next = Action.fail error := rfl

theorem ofExcept_ok_bind (value : α) (next : α → Action σ ν β) :
    Action.ofExcept (.ok value) >>= next = next value := rfl

/-- Actions that correspond. -/
def Related (S : σ → τ → Prop) (see : ν → Option δ) (see' : ν' → Option δ) (V : α → α' → Prop)
    (action : Action σ ν α) (action' : Action τ ν' α') : Prop :=
  ∀ state state', S state state' →
    Outcome.Related S see see' V (action.run state) (action'.run state')

namespace Related

/-- What corresponds to nothing but itself. -/
theorem refl {S : σ → σ → Prop} {see : ν → Option δ} {V : α → α → Prop}
    (hstate : ∀ state state', S state state' ↔ state = state') (hvalue : ∀ value, V value value)
    (action : Action σ ν α) : Related S see see V action action := by
  intro state state' hsame
  obtain rfl := (hstate state state').mp hsame
  exact ⟨Outcome.resultsRelated_refl hvalue _, (hstate _ _).mpr rfl, rfl⟩

theorem eq {action action' : Action σ ν α} (haction : Related Eq some some Eq action action') :
    action = action' := by
  refine Action.ext (funext fun state => ?_)
  obtain ⟨hresult, hreached, hnotes⟩ := haction state state rfl
  rw [List.filterMap_some, List.filterMap_some] at hnotes
  rcases hrun : action.run state with ⟨result, reached, notes⟩
  rcases hrun' : action'.run state with ⟨result', reached', notes'⟩
  rw [hrun, hrun'] at hresult hreached hnotes
  rw [Outcome.mk.injEq]
  exact ⟨Outcome.eq_of_resultsRelated hresult, hreached, hnotes⟩

variable {S : σ → τ → Prop} {see : ν → Option δ} {see' : ν' → Option δ}
  {V : α → α' → Prop} {W : β → β' → Prop}

theorem pure {value : α} {value' : α'} (hvalue : V value value') :
    Related S see see' V (Pure.pure value) (Pure.pure value') :=
  fun _ _ hstate => ⟨hvalue, hstate, rfl⟩

theorem fail (error : AuthError) :
    Related S see see' V (Action.fail error) (Action.fail error) :=
  fun _ _ hstate => ⟨rfl, hstate, rfl⟩

theorem ofExcept {result : Except AuthError α} {result' : Except AuthError α'}
    (hresult : Outcome.ResultsRelated V result result') :
    Related S see see' V (Action.ofExcept result) (Action.ofExcept result') :=
  fun _ _ hstate => ⟨hresult, hstate, rfl⟩

theorem note {entry : ν} {entry' : ν'} (hentry : see entry = see' entry') :
    Related S see see' Eq (Action.note entry) (Action.note entry') :=
  fun _ _ hstate => ⟨rfl, hstate, by simp only [run_note, List.filterMap_cons, hentry]; rfl⟩

theorem modify {change : σ → σ} {change' : τ → τ}
    (hchange : ∀ state state', S state state' → S (change state) (change' state')) :
    Related S see see' Eq (Action.modify change) (Action.modify change') :=
  fun _ _ hstate => ⟨rfl, hchange _ _ hstate, rfl⟩

theorem bind {action : Action σ ν α} {action' : Action τ ν' α'}
    {next : α → Action σ ν β} {next' : α' → Action τ ν' β'}
    (haction : Related S see see' V action action')
    (hnext : ∀ value value', V value value' →
      Related S see see' W (next value) (next' value')) :
    Related S see see' W (action >>= next) (action' >>= next') := by
  intro state state' hstate
  rw [run_bind, run_bind]
  obtain ⟨hresult, hreached, hnotes⟩ := haction state state' hstate
  generalize action.run state = outcome at hresult hreached hnotes ⊢
  generalize action'.run state' = outcome' at hresult hreached hnotes ⊢
  obtain ⟨_ | value, reached, notes⟩ := outcome <;>
    obtain ⟨_ | value', reached', notes'⟩ := outcome'
  · exact ⟨hresult, hreached, hnotes⟩
  · exact hresult.elim
  · exact hresult.elim
  · obtain ⟨hlast, hend, hmore⟩ := hnext value value' hresult reached reached' hreached
    refine ⟨hlast, hend, ?_⟩
    simp only [Outcome.andThen_ok, List.filterMap_append]
    exact congr (congrArg _ hnotes) hmore

/-- Actions that agree on a value go on from that value. -/
theorem bind_eq {action : Action σ ν α} {action' : Action τ ν' α} {next : α → Action σ ν β}
    {next' : α → Action τ ν' β'} (haction : Related S see see' Eq action action')
    (hnext : ∀ value, Related S see see' W (next value) (next' value)) :
    Related S see see' W (action >>= next) (action' >>= next') :=
  haction.bind fun value _ hvalue => hvalue ▸ hnext value

theorem note_bind {entry : ν} {entry' : ν'} {next : Unit → Action σ ν β}
    {next' : Unit → Action τ ν' β'} (hentry : see entry = see' entry')
    (hnext : Related S see see' W (next ()) (next' ())) :
    Related S see see' W (Action.note entry >>= next) (Action.note entry' >>= next') :=
  (Related.note hentry).bind_eq fun _ => hnext

theorem map {action : Action σ ν α} {action' : Action τ ν' α'} {convert : α → β}
    {convert' : α' → β'} (haction : Related S see see' V action action')
    (hconvert : ∀ value value', V value value' → W (convert value) (convert' value')) :
    Related S see see' W (convert <$> action) (convert' <$> action') := by
  rw [map_eq_pure_bind, map_eq_pure_bind]
  exact haction.bind fun value value' hvalue => Related.pure (hconvert value value' hvalue)

theorem map_left {U : β → α' → Prop} {action : Action σ ν α} {action' : Action τ ν' α'}
    {convert : α → β} (haction : Related S see see' V action action')
    (hconvert : ∀ value value', V value value' → U (convert value) value') :
    Related S see see' U (convert <$> action) action' := by
  have hmap : Related S see see' U (convert <$> action) (id <$> action') :=
    haction.map hconvert
  rwa [id_map] at hmap

theorem ite {p p' : Prop} [Decidable p] [Decidable p'] {action other : Action σ ν α}
    {action' other' : Action τ ν' α'} (hcondition : p ↔ p')
    (haction : Related S see see' V action action')
    (hother : Related S see see' V other other') :
    Related S see see' V (if p then action else other) (if p' then action' else other') := by
  by_cases hp : p
  · rw [if_pos hp, if_pos (hcondition.mp hp)]
    exact haction
  · rw [if_neg hp, if_neg (mt hcondition.mpr hp)]
    exact hother

theorem mapNotes {seen : μ → Option ε} {seen' : μ' → Option ε} {reword : ν → μ} {reword' : ν' → μ'}
    {action : Action σ ν α} {action' : Action τ ν' α'} (lift : δ → ε)
    (hreword : ∀ entry, seen (reword entry) = (see entry).map lift)
    (hreword' : ∀ entry, seen' (reword' entry) = (see' entry).map lift)
    (haction : Related S see see' V action action') :
    Related S seen seen' V (action.mapNotes reword) (action'.mapNotes reword') := by
  intro state state' hstate
  obtain ⟨hresult, hreached, hnotes⟩ := haction state state' hstate
  refine ⟨hresult, hreached, ?_⟩
  have hsee : seen ∘ reword = fun entry => (see entry).map lift := funext hreword
  have hsee' : seen' ∘ reword' = fun entry => (see' entry).map lift := funext hreword'
  simp only [run_mapNotes, List.filterMap_map, hsee, hsee', ← List.map_filterMap, hnotes]

/-- An observer of reworded notes sees what one of the notes themselves makes of them. -/
theorem mapNotes_left {action : Action σ ν α} {action' : Action τ ν α'} (reword : ν → μ)
    (look : μ → Option ε) (haction : Related S some some V action action') :
    Related S look (fun entry => look (reword entry)) V (action.mapNotes reword) action' := by
  intro state state' hstate
  obtain ⟨hresult, hreached, hnotes⟩ := haction state state' hstate
  rw [List.filterMap_some, List.filterMap_some] at hnotes
  refine ⟨hresult, hreached, ?_⟩
  rw [run_mapNotes, List.filterMap_map, hnotes]
  rfl

theorem onSecond {T : ω → ω' → Prop} {action : Action ω ν α} {action' : Action ω' ν' α'}
    (haction : Related T see see' V action action') :
    Related (Outcome.PairRelated S T) see see' V action.onSecond action'.onSecond := by
  rintro ⟨own, shared⟩ ⟨own', shared'⟩ ⟨hown, hshared⟩
  obtain ⟨hresult, hreached, hnotes⟩ := haction shared shared' hshared
  exact ⟨hresult, ⟨hown, hreached⟩, hnotes⟩

theorem attempt {action : Action σ ν α} {action' : Action τ ν' α'}
    (haction : Related S see see' V action action') :
    Related S see see' (Outcome.ResultsRelated V) action.attempt action'.attempt := by
  intro state state' hstate
  obtain ⟨hresult, hreached, hnotes⟩ := haction state state' hstate
  exact ⟨hresult, hreached, hnotes⟩

theorem withOwn {T : ω → ω' → Prop} {own : σ} {own' : τ} {action : Action (σ × ω) ν α}
    {action' : Action (τ × ω') ν' α'} (hown : S own own')
    (haction : Related (Outcome.PairRelated S T) see see' V action action') :
    Related T see see' (Outcome.PairRelated V S) (action.withOwn own)
      (action'.withOwn own') := by
  intro shared shared' hshared
  obtain ⟨hresult, ⟨hkept, hreached⟩, hnotes⟩ :=
    haction (own, shared) (own', shared') ⟨hown, hshared⟩
  refine ⟨?_, hreached, hnotes⟩
  simp only [run_withOwn]
  generalize (action.run (own, shared)).result = result at hresult
  generalize (action'.run (own', shared')).result = result' at hresult
  cases result <;> cases result'
  · exact hresult
  · exact hresult.elim
  · exact hresult.elim
  · exact ⟨hresult, hkept⟩

end Related

/-- Whether nothing is seen of an action's notes, wherever it starts. -/
def Silent (see : ν → Option δ) (action : Action σ ν α) : Prop :=
  ∀ state, (action.run state).notes.filterMap see = []

namespace Silent

variable {see : ν → Option δ}

theorem pure (value : α) : (Pure.pure value : Action σ ν α).Silent see :=
  fun _ => rfl

theorem fail (error : AuthError) : (Action.fail error : Action σ ν α).Silent see :=
  fun _ => rfl

theorem modify (change : σ → σ) : (Action.modify change : Action σ ν Unit).Silent see :=
  fun _ => rfl

theorem bind {action : Action σ ν α} {next : α → Action σ ν β} (haction : action.Silent see)
    (hnext : ∀ value, (next value).Silent see) : (action >>= next).Silent see := by
  intro state
  have hfirst := haction state
  rw [run_bind]
  generalize action.run state = outcome at hfirst ⊢
  rcases outcome with ⟨error | value, reached, notes⟩
  · exact hfirst
  · rw [Outcome.andThen_ok, List.filterMap_append, hfirst, hnext value reached, List.append_nil]

theorem note_bind {entry : ν} {next : Unit → Action σ ν β} (hentry : see entry = none)
    (hnext : (next ()).Silent see) : (Action.note entry >>= next).Silent see := by
  apply Silent.bind _ fun _ => hnext
  intro state
  simp [hentry]

theorem map {action : Action σ ν α} (convert : α → β) (haction : action.Silent see) :
    (convert <$> action).Silent see := by
  intro state
  rw [run_map]
  exact haction state

theorem onSecond {action : Action ω ν α} (haction : action.Silent see) :
    (action.onSecond : Action (σ × ω) ν α).Silent see :=
  fun state => haction state.2

/-- Notes that cannot be seen once they are reworded. -/
theorem mapNotes {see : μ → Option δ} {reword : ν → μ}
    (hreword : ∀ entry, see (reword entry) = none) (action : Action σ ν α) : (action.mapNotes reword).Silent see := by
  intro state
  simp [hreword]

end Silent

/-- Whether a run from a state ends with a result in a state. What it notes on the way is
left open. -/
def Ends (action : Action σ ν α) (state : σ) (result : Except AuthError α) (last : σ) : Prop :=
  ∃ notes, action.run state = ⟨result, last, notes⟩

theorem ends_run (action : Action σ ν α) (state : σ) :
    action.Ends state (action.run state).result (action.run state).state :=
  ⟨_, rfl⟩

namespace Ends

theorem result_eq {action : Action σ ν α} {state last : σ} {result : Except AuthError α}
    (haction : action.Ends state result last) : (action.run state).result = result := by
  obtain ⟨notes, hrun⟩ := haction
  rw [hrun]

theorem state_eq {action : Action σ ν α} {state last : σ} {result : Except AuthError α}
    (haction : action.Ends state result last) : (action.run state).state = last := by
  obtain ⟨notes, hrun⟩ := haction
  rw [hrun]

theorem unique {action : Action σ ν α} {state last last' : σ}
    {result result' : Except AuthError α} (haction : action.Ends state result last)
    (haction' : action.Ends state result' last') : result = result' ∧ last = last' :=
  ⟨haction.result_eq.symm.trans haction'.result_eq, haction.state_eq.symm.trans haction'.state_eq⟩

theorem fail (error : AuthError) (state : σ) :
    (Action.fail error : Action σ ν α).Ends state (.error error) state :=
  ⟨[], rfl⟩

theorem pure (value : α) (state : σ) :
    (Pure.pure value : Action σ ν α).Ends state (.ok value) state :=
  ⟨[], rfl⟩

theorem bind_error {action : Action σ ν α} {state last : σ} {error : AuthError}
    (haction : action.Ends state (.error error) last) (next : α → Action σ ν β) :
    (action >>= next).Ends state (.error error) last := by
  obtain ⟨notes, hrun⟩ := haction
  exact ⟨notes, by rw [run_bind, hrun, Outcome.andThen_error]⟩

theorem bind {action : Action σ ν α} {next : α → Action σ ν β} {state middle last : σ}
    {value : α} {result : Except AuthError β} (haction : action.Ends state (.ok value) middle)
    (hnext : (next value).Ends middle result last) : (action >>= next).Ends state result last := by
  obtain ⟨notes, hrun⟩ := haction
  obtain ⟨more, hmore⟩ := hnext
  exact ⟨notes ++ more, by rw [run_bind, hrun, Outcome.andThen_ok, hmore]⟩

theorem note_bind {entry : ν} {next : Unit → Action σ ν β} {state last : σ}
    {result : Except AuthError β} (hnext : (next ()).Ends state result last) :
    (Action.note entry >>= next).Ends state result last :=
  Ends.bind ⟨[entry], rfl⟩ hnext

theorem map {action : Action σ ν α} {state last : σ} {result : Except AuthError α}
    (convert : α → β) (haction : action.Ends state result last) :
    (convert <$> action).Ends state (result.map convert) last := by
  obtain ⟨notes, hrun⟩ := haction
  exact ⟨notes, by rw [run_map, hrun]⟩

theorem mapNotes {action : Action σ ν α} {state last : σ} {result : Except AuthError α}
    (reword : ν → μ) (haction : action.Ends state result last) :
    (action.mapNotes reword).Ends state result last := by
  obtain ⟨notes, hrun⟩ := haction
  exact ⟨notes.map reword, by rw [run_mapNotes, hrun]⟩

theorem attempt {action : Action σ ν α} {state last : σ} {result : Except AuthError α}
    (haction : action.Ends state result last) : action.attempt.Ends state (.ok result) last := by
  obtain ⟨notes, hrun⟩ := haction
  exact ⟨notes, by rw [run_attempt, hrun]⟩

end Ends

/-- Whether an action succeeds from a state, with a value and the state it leads to. What it
notes on the way is left open. -/
def Yields (action : Action σ ν α) (state : σ) (value : α) (next : σ) : Prop :=
  ∃ notes, action.run state = ⟨.ok value, next, notes⟩

namespace Yields

theorem pure (value : α) (state : σ) : (Pure.pure value : Action σ ν α).Yields state value state :=
  Ends.pure value state

theorem bind {action : Action σ ν α} {next : α → Action σ ν β} {state middle last : σ}
    {value : α} {value' : β} (haction : action.Yields state value middle)
    (hnext : (next value).Yields middle value' last) :
    (action >>= next).Yields state value' last :=
  Ends.bind haction hnext

theorem note_bind {entry : ν} {next : Unit → Action σ ν β} {state last : σ} {value : β}
    (hnext : (next ()).Yields state value last) :
    (Action.note entry >>= next).Yields state value last :=
  Ends.note_bind hnext

theorem map {action : Action σ ν α} {state next : σ} {value : α} (convert : α → β)
    (haction : action.Yields state value next) :
    (convert <$> action).Yields state (convert value) next :=
  Ends.map convert haction

theorem mapNotes {action : Action σ ν α} {state next : σ} {value : α} (reword : ν → μ)
    (haction : action.Yields state value next) :
    (action.mapNotes reword).Yields state value next :=
  Ends.mapNotes reword haction

theorem onSecond {action : Action ω ν α} {shared next : ω} {value : α} (own : σ)
    (haction : action.Yields shared value next) :
    action.onSecond.Yields (own, shared) value (own, next) := by
  obtain ⟨notes, hrun⟩ := haction
  exact ⟨notes, by rw [run_onSecond, hrun]⟩

theorem withOwn {action : Action (σ × ω) ν α} {own : σ} {shared : ω} {next : σ × ω} {value : α}
    (haction : action.Yields (own, shared) value next) :
    (action.withOwn own).Yields shared (value, next.1) next.2 := by
  obtain ⟨notes, hrun⟩ := haction
  refine ⟨notes, ?_⟩
  rw [run_withOwn, hrun]
  rfl

end Yields

/-! ## What a success consists of -/

theorem yields_of_result_eq {action : Action σ ν α} {state : σ} {value : α}
    (hresult : (action.run state).result = .ok value) :
    action.Yields state value (action.run state).state := by
  refine ⟨(action.run state).notes, ?_⟩
  rw [← hresult]

@[simp]
theorem yields_pure_iff {value value' : α} {state state' : σ} :
    (Pure.pure value : Action σ ν α).Yields state value' state' ↔
      value' = value ∧ state' = state := by
  simp [Yields, eq_comm]

@[simp]
theorem yields_note_iff {entry : ν} {value : Unit} {state state' : σ} :
    (Action.note entry : Action σ ν Unit).Yields state value state' ↔ state' = state := by
  simp [Yields, eq_comm]

@[simp]
theorem yields_mapNotes_iff {action : Action σ ν α} {reword : ν → μ} {value : α}
    {state state' : σ} :
    (action.mapNotes reword).Yields state value state' ↔ action.Yields state value state' := by
  constructor
  · intro hyields
    obtain ⟨notes, hrun⟩ := hyields
    simp only [run_mapNotes, Outcome.mk.injEq] at hrun
    obtain ⟨hresult, rfl, -⟩ := hrun
    exact yields_of_result_eq hresult
  · exact Yields.mapNotes reword

/-- A sequence succeeds exactly when one part after the other does. -/
@[simp]
theorem yields_bind_iff {action : Action σ ν α} {next : α → Action σ ν β} {state last : σ}
    {value' : β} :
    (action >>= next).Yields state value' last ↔
      ∃ value middle,
        action.Yields state value middle ∧ (next value).Yields middle value' last := by
  constructor
  · intro hyields
    obtain ⟨notes, hrun⟩ := hyields
    rw [run_bind] at hrun
    rcases hfirst : action.run state with ⟨error | value, middle, earlier⟩
    · rw [hfirst, Outcome.andThen_error] at hrun
      cases hrun
    · rw [hfirst, Outcome.andThen_ok, Outcome.mk.injEq] at hrun
      obtain ⟨hresult, rfl, -⟩ := hrun
      exact ⟨value, middle, ⟨earlier, hfirst⟩, yields_of_result_eq hresult⟩
  · rintro ⟨value, middle, haction, hnext⟩
    exact haction.bind hnext

theorem yields_withOwn_iff {own own' : σ} {action : Action (σ × ω) ν α} {value : α}
    {shared next : ω} :
    (action.withOwn own).Yields shared (value, own') next ↔
      action.Yields (own, shared) value (own', next) := by
  constructor
  · intro hyields
    obtain ⟨notes, hrun⟩ := hyields
    rcases hinner : action.run (own, shared) with ⟨error | value', ⟨kept, reached⟩, inner⟩
    · rw [run_withOwn, hinner] at hrun
      cases hrun
    · rw [run_withOwn, hinner] at hrun
      cases hrun
      exact ⟨_, hinner⟩
  · intro hyields
    exact hyields.withOwn

theorem yields_ofCall_iff {explain : δ → AuthError} {call : LibraryCall σ δ α} {value : α}
    {state next : σ} :
    (Action.ofCall explain call : Action σ ν α).Yields state value next ↔
      call state = (.ok value, next) := by
  rcases hcall : call state with ⟨fault | value', reached⟩
  · have hrun : (Action.ofCall explain call : Action σ ν α).run state =
        ⟨.error (explain fault), reached, []⟩ := by
      simp only [ofCall, hcall]
      rfl
    simp [Yields, hrun]
  · have hrun : (Action.ofCall explain call : Action σ ν α).run state =
        ⟨.ok value', reached, []⟩ := by
      simp only [ofCall, hcall]
      rfl
    simp [Yields, hrun]

end Action

end KerberosLogin
