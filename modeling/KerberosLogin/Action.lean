import KerberosLogin.Error

/-! # Actions

An action works on a state it may change, takes notes, and ends in a value or an
authentication error. An error ends the action but undoes nothing: the state
reached and the notes taken until then remain.

The state is left open. A component that calls others knows only its own part
of the state, and the combinators below let it run an action on that part.
-/

namespace KerberosLogin

/-- What an action leaves behind. -/
structure Outcome (σ ν α : Type) where
  result : Except AuthError α
  state : σ
  notes : List ν

/-- An action on states `σ` that takes notes `ν` and yields an `α`. -/
@[ext]
structure Action (σ ν α : Type) where
  /-- Runs the action from a state. -/
  run : σ → Outcome σ ν α

namespace Action

variable {σ ω ν μ α β : Type}

/-- Does nothing and yields a value. -/
protected def pure (value : α) : Action σ ν α where
  run state := ⟨.ok value, state, []⟩

/-- Runs a second action on the value of the first, unless that failed. -/
protected def bind (action : Action σ ν α) (next : α → Action σ ν β) : Action σ ν β where
  run state :=
    let first := action.run state
    match first.result with
    | .error error => ⟨.error error, first.state, first.notes⟩
    | .ok value =>
      let second := (next value).run first.state
      ⟨second.result, second.state, first.notes ++ second.notes⟩

instance : Monad (Action σ ν) where
  pure := Action.pure
  bind := Action.bind

/-- Fails, changing nothing. -/
def fail (error : AuthError) : Action σ ν α where
  run state := ⟨.error error, state, []⟩

/-- Yields a result that is known already. -/
def ofExcept (result : Except AuthError α) : Action σ ν α where
  run state := ⟨result, state, []⟩

/-- Takes one note. -/
def note (entry : ν) : Action σ ν Unit where
  run state := ⟨.ok (), state, [entry]⟩

/-- Yields the state. -/
def get : Action σ ν σ where
  run state := ⟨.ok state, state, []⟩

/-- Changes the state. -/
def modify (change : σ → σ) : Action σ ν Unit where
  run state := ⟨.ok (), change state, []⟩

/-- Turns a failure into a value. -/
def attempt (action : Action σ ν α) : Action σ ν (Except AuthError α) where
  run state :=
    let outcome := action.run state
    ⟨.ok outcome.result, outcome.state, outcome.notes⟩

/-- Rewords the notes. -/
def mapNotes (reword : ν → μ) (action : Action σ ν α) : Action σ μ α where
  run state :=
    let outcome := action.run state
    ⟨outcome.result, outcome.state, outcome.notes.map reword⟩

/-- Runs an action on the second part of the state. -/
def onSecond (action : Action ω ν α) : Action (σ × ω) ν α where
  run := fun (own, shared) =>
    let outcome := action.run shared
    ⟨outcome.result, (own, outcome.state), outcome.notes⟩

/-- Runs an action that has a part of the state to itself, starting from
`own`, and yields the value with that part as it was left. The part is lost
when the action fails. -/
def withOwn (own : σ) (action : Action (σ × ω) ν α) : Action ω ν (α × σ) where
  run shared :=
    let outcome := action.run (own, shared)
    ⟨outcome.result.map (·, outcome.state.1), outcome.state.2, outcome.notes⟩

/-! ## Laws

What an action leaves behind, one equation for each combinator. -/

@[simp]
theorem run_pure (value : α) (state : σ) :
    (pure value : Action σ ν α).run state = ⟨.ok value, state, []⟩ := rfl

theorem run_bind_error {action : Action σ ν α} {state : σ} {error : AuthError}
    (next : α → Action σ ν β) (h : (action.run state).result = .error error) :
    (action >>= next).run state
      = ⟨.error error, (action.run state).state, (action.run state).notes⟩ := by
  simp only [bind, Action.bind, h]

theorem run_bind_ok {action : Action σ ν α} {state : σ} {value : α}
    (next : α → Action σ ν β) (h : (action.run state).result = .ok value) :
    (action >>= next).run state
      = ⟨((next value).run (action.run state).state).result,
          ((next value).run (action.run state).state).state,
          (action.run state).notes ++ ((next value).run (action.run state).state).notes⟩ := by
  simp only [bind, Action.bind, h]

@[simp]
theorem run_fail (error : AuthError) (state : σ) :
    (fail error : Action σ ν α).run state = ⟨.error error, state, []⟩ := rfl

@[simp]
theorem run_ofExcept (result : Except AuthError α) (state : σ) :
    (ofExcept result : Action σ ν α).run state = ⟨result, state, []⟩ := rfl

@[simp]
theorem run_note (entry : ν) (state : σ) :
    (note entry).run state = ⟨.ok (), state, [entry]⟩ := rfl

@[simp]
theorem run_get (state : σ) :
    (get : Action σ ν σ).run state = ⟨.ok state, state, []⟩ := rfl

@[simp]
theorem run_modify (change : σ → σ) (state : σ) :
    (modify change : Action σ ν Unit).run state = ⟨.ok (), change state, []⟩ := rfl

@[simp]
theorem run_attempt (action : Action σ ν α) (state : σ) :
    action.attempt.run state
      = ⟨.ok (action.run state).result, (action.run state).state, (action.run state).notes⟩ := rfl

@[simp]
theorem run_mapNotes (reword : ν → μ) (action : Action σ ν α) (state : σ) :
    (action.mapNotes reword).run state
      = ⟨(action.run state).result, (action.run state).state,
          (action.run state).notes.map reword⟩ := rfl

@[simp]
theorem run_onSecond (action : Action ω ν α) (own : σ) (shared : ω) :
    action.onSecond.run (own, shared)
      = ⟨(action.run shared).result, (own, (action.run shared).state),
          (action.run shared).notes⟩ := rfl

@[simp]
theorem run_withOwn (own : σ) (action : Action (σ × ω) ν α) (shared : ω) :
    (action.withOwn own).run shared
      = ⟨(action.run (own, shared)).result.map (·, (action.run (own, shared)).state.1),
          (action.run (own, shared)).state.2, (action.run (own, shared)).notes⟩ := rfl

theorem bind_pure_self (action : Action σ ν α) : action >>= pure = action := by
  refine Action.ext (funext fun state => ?_)
  cases h : (action.run state).result with
  | error error => rw [run_bind_error _ h, ← h]
  | ok value => rw [run_bind_ok _ h, run_pure, ← h, List.append_nil]

theorem bind_bind (action : Action σ ν α) (next : α → Action σ ν β) {γ : Type}
    (last : β → Action σ ν γ) :
    action >>= next >>= last = action >>= fun value => next value >>= last := by
  refine Action.ext (funext fun state => ?_)
  cases h : (action.run state).result with
  | error error =>
    have hfirst := run_bind_error next h
    rw [run_bind_error last (by rw [hfirst]), hfirst, run_bind_error _ h]
  | ok value =>
    have hfirst := run_bind_ok next h
    rw [run_bind_ok _ h]
    cases h' : ((next value).run (action.run state).state).result with
    | error error =>
      rw [run_bind_error last (by rw [hfirst, h']), run_bind_error last h', hfirst]
    | ok value' =>
      rw [run_bind_ok last (by rw [hfirst, h']), run_bind_ok last h', hfirst,
        List.append_assoc]

instance : LawfulMonad (Action σ ν) :=
  LawfulMonad.mk' _ bind_pure_self (fun _ _ => rfl) (fun action next last =>
    bind_bind action next last)

@[simp]
theorem run_map (convert : α → β) (action : Action σ ν α) (state : σ) :
    (convert <$> action).run state
      = ⟨(action.run state).result.map convert, (action.run state).state,
          (action.run state).notes⟩ := by
  rw [map_eq_pure_bind]
  cases h : (action.run state).result with
  | error error => rw [run_bind_error _ h]; rfl
  | ok value => rw [run_bind_ok _ h, run_pure, List.append_nil]; rfl

end Action

/-- A call into a library that works on states `σ` and has errors `δ` of its
own. -/
abbrev LibraryCall (σ δ α : Type) : Type :=
  σ → Except δ α × σ

/-- A library call as an action; `explain` says what its error means here. -/
def Action.ofCall {σ ν δ α : Type} (explain : δ → AuthError) (call : LibraryCall σ δ α) :
    Action σ ν α where
  run state :=
    let (answer, state') := call state
    ⟨answer.mapError explain, state', []⟩

end KerberosLogin
