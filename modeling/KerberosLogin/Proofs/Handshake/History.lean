import KerberosLogin.Handshake.Run

/-! # Looking back on a run

A run keeps what each call gave. Its history keeps for each call also the call
itself and the state it was made in, so that a statement about a run can speak
of the calls that were allowed. What one allowed call does is what the body of
its operation does, settled by success or failure.
-/

namespace KerberosLogin

namespace Client

variable {ω ν κ χ α β : Type}

/-! ## One operation -/

theorem run_perform_refused {operation : Operation} {exchange : Exchange χ}
    (hstate : exchange.state ≠ operation.requiredState) (body : Act ω ν χ α) (shared : ω) :
    (perform operation body).run (exchange, shared) =
      ⟨.error (operation.misuse exchange.state), (exchange, shared), []⟩ :=
  if_neg hstate

theorem run_perform_ok {operation : Operation} {exchange : Exchange χ} {shared : ω}
    {body : Act ω ν χ α} {value : α} {state : Exchange χ × ω} {notes : List (HandshakeNote ν)}
    (hstate : exchange.state = operation.requiredState)
    (hbody : body.run ({ exchange with state := operation.workingState }, shared) =
      ⟨.ok value, state, notes⟩) :
    (perform operation body).run (exchange, shared) = ⟨.ok value, state, notes⟩ := by
  simp only [perform, if_pos hstate, hbody]

theorem run_perform_error {operation : Operation} {exchange reached : Exchange χ}
    {shared shared' : ω} {body : Act ω ν χ α} {error : AuthError}
    {notes : List (HandshakeNote ν)}
    (hstate : exchange.state = operation.requiredState)
    (hbody : body.run ({ exchange with state := operation.workingState }, shared) =
      ⟨.error error, (reached, shared'), notes⟩) :
    (perform operation body).run (exchange, shared) =
      ⟨.error error, ({ reached with state := .failed, context := none }, shared'),
        notes ++ [.failed error reached.state]⟩ := by
  simp only [perform, if_pos hstate, hbody]

theorem map_perform (convert : α → β) (operation : Operation) (body : Act ω ν χ α) :
    convert <$> perform operation body = perform operation (convert <$> body) := by
  refine Action.ext (funext fun (exchange, shared) => ?_)
  rw [Action.run_map]
  by_cases hstate : exchange.state = operation.requiredState
  · rcases hbody : body.run ({ exchange with state := operation.workingState }, shared) with
      ⟨result, ⟨reached, shared'⟩, notes⟩
    have hmap := Action.run_map convert body
      ({ exchange with state := operation.workingState }, shared)
    rw [hbody] at hmap
    cases result with
    | error error => rw [run_perform_error hstate hbody, run_perform_error hstate hmap]; rfl
    | ok value => rw [run_perform_ok hstate hbody, run_perform_ok hstate hmap]; rfl
  · rw [run_perform_refused hstate, run_perform_refused hstate]
    rfl

variable (client : Client ω ν κ χ)

/-- What a call does where it is allowed. -/
def body : Call → Act ω ν χ Answer
  | .begin initial => .initial <$> client.answerFirst initial
  | .proceed token => .outcome <$> client.answerToken token
  | .close message => .closing <$> client.answerClosing message

theorem call_eq_perform (call : Call) :
    client.call call = perform call.operation (client.body call) := by
  cases call with
  | begin initial => exact map_perform ..
  | proceed token => exact map_perform ..
  | close message => exact map_perform ..

/-! ## Histories -/

/-- One call of a run, with the state it was made in. -/
structure Visit (ω ν χ : Type) where
  call : Call
  before : Exchange χ × ω
  outcome : Outcome (Exchange χ × ω) (HandshakeNote ν) Answer

/-- Whether the call was made in the state that it requires. -/
def Visit.accepted (visit : Visit ω ν χ) : Bool :=
  decide (visit.before.1.state = visit.call.operation.requiredState)

/-- A call and its answer. -/
abbrev Exchanged : Type :=
  Call × Except AuthError Answer

/-- Makes one call and keeps it in mind. -/
def visit (call : Call) (state : Exchange χ × ω) : Visit ω ν χ :=
  ⟨call, state, (client.call call).run state⟩

/-- The calls of a run as they were answered. -/
def history : List Call → Exchange χ × ω → List (Visit ω ν χ)
  | [], _ => []
  | call :: calls, state =>
    client.visit call state :: history calls ((client.call call).run state).state

/-- The accepted calls of a run, with their answers. -/
def answered (calls : List Call) (state : Exchange χ × ω) : List Exchanged :=
  ((client.history calls state).filter Visit.accepted).map fun visit =>
    (visit.call, visit.outcome.result)

/-- The state that a run ends in. -/
def reached : List Call → Exchange χ × ω → Exchange χ × ω
  | [], state => state
  | call :: calls, state => reached calls ((client.call call).run state).state

theorem history_append (first second : List Call) (state : Exchange χ × ω) :
    client.history (first ++ second) state =
      client.history first state ++ client.history second (client.reached first state) := by
  induction first generalizing state with
  | nil => rfl
  | cons call first ih => exact congrArg _ (ih _)

theorem reached_append (first second : List Call) (state : Exchange χ × ω) :
    client.reached (first ++ second) state =
      client.reached second (client.reached first state) := by
  induction first generalizing state with
  | nil => rfl
  | cons call first ih => exact ih _

/-- Each entry of a history is one call, made where the calls before it have led. -/
theorem exists_of_mem_history {calls : List Call} {state : Exchange χ × ω} {visit : Visit ω ν χ}
    (hvisit : visit ∈ client.history calls state) :
    ∃ earlier call later, calls = earlier ++ call :: later ∧
      visit = client.visit call (client.reached earlier state) := by
  induction calls generalizing state with
  | nil => cases hvisit
  | cons call calls ih =>
      rcases List.mem_cons.mp hvisit with rfl | hvisit
      · exact ⟨[], call, calls, rfl, rfl⟩
      · obtain ⟨earlier, call', later, rfl, rfl⟩ := ih hvisit
        exact ⟨call :: earlier, call', later, rfl, rfl⟩

theorem outcome_of_refused {call : Call} {state : Exchange χ × ω}
    (hstate : state.1.state ≠ call.operation.requiredState) :
    (client.visit call state).outcome =
      ⟨.error (call.operation.misuse state.1.state), state, []⟩ := by
  rw [visit, call_eq_perform]
  exact run_perform_refused hstate _ _

theorem run_call_of_refused {call : Call} {state : Exchange χ × ω}
    (hstate : state.1.state ≠ call.operation.requiredState) :
    (client.call call).run state =
      ⟨.error (call.operation.misuse state.1.state), state, []⟩ :=
  client.outcome_of_refused hstate

theorem outcome_of_mem_history {calls : List Call} {state : Exchange χ × ω}
    {visit : Visit ω ν χ} (hvisit : visit ∈ client.history calls state)
    (hstate : visit.before.1.state ≠ visit.call.operation.requiredState) :
    visit.outcome =
      ⟨.error (visit.call.operation.misuse visit.before.1.state), visit.before, []⟩ := by
  obtain ⟨earlier, call, later, rfl, rfl⟩ := client.exists_of_mem_history hvisit
  exact client.outcome_of_refused hstate

/-! ## One more call -/

theorem history_snoc (calls : List Call) (call : Call) (state : Exchange χ × ω) :
    client.history (calls ++ [call]) state =
      client.history calls state ++ [client.visit call (client.reached calls state)] :=
  client.history_append calls [call] state

theorem reached_snoc (calls : List Call) (call : Call) (state : Exchange χ × ω) :
    client.reached (calls ++ [call]) state =
      (client.visit call (client.reached calls state)).outcome.state :=
  client.reached_append calls [call] state

theorem answered_append (first second : List Call) (state : Exchange χ × ω) :
    client.answered (first ++ second) state =
      client.answered first state ++ client.answered second (client.reached first state) := by
  rw [answered, history_append, List.filter_append, List.map_append]
  rfl

theorem answered_of_refused {call : Call} {state : Exchange χ × ω}
    (hstate : state.1.state ≠ call.operation.requiredState) :
    client.answered [call] state = [] := by
  have hrefused : (client.visit call state).accepted = false := decide_eq_false hstate
  simp only [answered, history, List.filter_cons, hrefused]
  rfl

theorem answered_of_accepted {call : Call} {state : Exchange χ × ω}
    (hstate : state.1.state = call.operation.requiredState) :
    client.answered [call] state = [(call, (client.visit call state).outcome.result)] := by
  have haccepted : (client.visit call state).accepted = true := decide_eq_true hstate
  simp only [answered, history, List.filter_cons, haccepted]
  rfl

end Client

end KerberosLogin
