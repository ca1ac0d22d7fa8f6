import KerberosLogin.Proofs.Challenge
import KerberosLogin.Proofs.Handshake.CallOrder
import KerberosLogin.StandIn.Scripted

/-! # Exchanges that succeed

If everything that a client asks of its provider succeeds, and each step but the last is
incomplete, then the exchange succeeds: the client hands every token on, in both
directions and in order, however many rounds there are.
-/

namespace KerberosLogin

variable {ω ν κ χ α : Type}

/-! ## What a provider does -/

/-- Steps on inputs in turn that all succeed, with their outputs. -/
inductive SecurityContext.Steps (operations : SecurityContext ω ν χ) :
    χ × ω → List (Option Bytes) → List StepOutput → χ × ω → Prop where
  | nil (state : χ × ω) : Steps operations state [] [] state
  | cons {state next last : χ × ω} {input : Option Bytes} {inputs : List (Option Bytes)}
      {output : StepOutput} {outputs : List StepOutput}
      (hstep : (operations.step input).Yields state output next)
      (hsteps : Steps operations next inputs outputs last) :
      Steps operations state (input :: inputs) (output :: outputs) last

theorem SecurityContext.Steps.length_eq {operations : SecurityContext ω ν χ}
    {state last : χ × ω} {inputs : List (Option Bytes)} {outputs : List StepOutput}
    (hsteps : operations.Steps state inputs outputs last) : inputs.length = outputs.length := by
  induction hsteps with
  | nil => rfl
  | cons _ _ ih => rw [List.length_cons, List.length_cons, ih]

namespace Client

/-- What a provider does in an exchange that succeeds: which tokens its context is stepped
with and what it yields for them, and the closing messages. -/
inductive Script (client : Client ω ν κ χ) (challenge : Challenge) (shared : ω)
    (tokens : List (Option Bytes)) (message : Bytes) (outputs : List StepOutput) (reply : Bytes)
    (last : χ × ω) : Prop where
  | played {credential : InitiatorCredential κ} {selected initiated : ω} {context : χ}
      {stepped asked unwrapped : χ × ω} {plain : Bytes}
      (hselect : (client.initiatorCredential challenge).Yields shared credential selected)
      (hinitiate : (client.provider.initiate challenge.servicePrincipal credential
        Requirements.handshake).Yields selected context initiated)
      (hsteps : client.provider.context.Steps (context, initiated) (none :: tokens) outputs
        stepped)
      (hcomplete : client.provider.context.isComplete stepped = (true, asked))
      (hunwrap : (client.provider.context.unwrap message).Yields asked plain unwrapped)
      (hwrap : (client.provider.context.wrap [1, 0, 0, 0] false).Yields unwrapped reply last)

/-! ## Calls that succeed -/

/-- Calls in turn that all succeed, with their answers and the states they lead to. -/
inductive Succeeds (client : Client ω ν κ χ) :
    Exchange χ × ω → List Call → List (Answer × HandshakeState) → Exchange χ × ω → Prop where
  | nil (state : Exchange χ × ω) : Succeeds client state [] [] state
  | cons {state next last : Exchange χ × ω} {call : Call} {calls : List Call} {answer : Answer}
      {answers : List (Answer × HandshakeState)}
      (hcall : (client.call call).Yields state answer next)
      (hcalls : Succeeds client next calls answers last) :
      Succeeds client state (call :: calls) ((answer, next.1.state) :: answers) last

section Calls

variable {client : Client ω ν κ χ} {calls : List Call} {answers : List (Answer × HandshakeState)}
  {state last : Exchange χ × ω}

theorem Succeeds.run_eq (hsucceeds : client.Succeeds state calls answers last) :
    (client.run calls state).map (fun outcome => (outcome.result, outcome.state.1.state)) =
      answers.map fun answered => (.ok answered.1, answered.2) := by
  induction hsucceeds with
  | nil => rfl
  | cons hcall _ ih =>
      obtain ⟨notes, hrun⟩ := hcall
      simp only [run, hrun, List.map_cons, ih]

theorem Succeeds.results (hsucceeds : client.Succeeds state calls answers last) :
    (client.run calls state).map Outcome.result = answers.map fun answered => .ok answered.1 := by
  have hfirst := congrArg (List.map Prod.fst) hsucceeds.run_eq
  rw [List.map_map, List.map_map] at hfirst
  exact hfirst

theorem Succeeds.states (hsucceeds : client.Succeeds state calls answers last) :
    (client.run calls state).map (fun outcome => outcome.state.1.state) =
      answers.map Prod.snd := by
  have hsecond := congrArg (List.map Prod.snd) hsucceeds.run_eq
  rw [List.map_map, List.map_map] at hsecond
  exact hsecond

theorem Succeeds.reached (hsucceeds : client.Succeeds state calls answers last) :
    client.reached calls state = last := by
  induction hsucceeds with
  | nil => rfl
  | cons hcall _ ih =>
      obtain ⟨notes, hrun⟩ := hcall
      simp only [Client.reached, hrun, ih]

theorem onContext_yields {action : Action (χ × ω) ν α} {position : HandshakeState}
    {challenge : Option Challenge} {before after : χ × ω} {value : α}
    (haction : action.Yields before value after) :
    (onContext action).Yields (⟨position, challenge, some before.1⟩, before.2) value
      (⟨position, challenge, some after.1⟩, after.2) := by
  obtain ⟨notes, hrun⟩ := haction
  refine ⟨notes.map .provider, ?_⟩
  simp only [onContext, Prod.eta, hrun]

theorem update_bind_yields {change : Exchange χ → Exchange χ} {exchange : Exchange χ} {shared : ω}
    {next : Unit → Act ω ν χ α} {value : α}
    (hnext : (next ()).Yields (change exchange, shared) value last) :
    (update change >>= next).Yields (exchange, shared) value last :=
  Action.Yields.bind ⟨[], rfl⟩ hnext

theorem record_yields (output : StepOutput) (exchange : Exchange χ) (shared : ω) :
    (record output : Act ω ν χ HandshakeOutcome).Yields (exchange, shared) output.outcome
      ({ exchange with state := .ofComplete output.complete }, shared) := by
  rcases output with ⟨token, complete⟩
  apply update_bind_yields
  apply Action.Yields.note_bind
  cases token with
  | none => exact .pure _ _
  | some token => exact .note_bind (.pure _ _)

theorem call_yields {call : Call} {exchange : Exchange χ} {shared : ω} {answer : Answer}
    (hstate : exchange.state = call.operation.requiredState)
    (hbody : (client.body call).Yields
      ({ exchange with state := call.operation.workingState }, shared) answer last) :
    (client.call call).Yields (exchange, shared) answer last := by
  obtain ⟨notes, hrun⟩ := hbody
  refine ⟨notes, ?_⟩
  rw [call_eq_perform]
  exact run_perform_ok hstate hrun

theorem begin_yields {initial : Option Bytes} {challenge : Challenge}
    {shared selected initiated : ω} {credential : InitiatorCredential κ} {context : χ}
    {stepped : χ × ω} {output : StepOutput}
    (hpacket : Challenge.decodeOptional initial = .ok (some challenge))
    (hselect : (client.initiatorCredential challenge).Yields shared credential selected)
    (hinitiate : (client.provider.initiate challenge.servicePrincipal credential
      Requirements.handshake).Yields selected context initiated)
    (hstep : (client.provider.context.step none).Yields (context, initiated) output stepped) :
    (client.call (.begin initial)).Yields ({}, shared) (.initial (.kerberos output.outcome))
      (⟨.ofComplete output.complete, some challenge, some stepped.1⟩, stepped.2) := by
  have hopen : (client.openContext challenge).Yields shared (output, stepped.1) stepped.2 := by
    apply Action.Yields.note_bind
    exact hselect.bind ((hinitiate.mapNotes _).bind (hstep.withOwn.mapNotes _))
  apply call_yields rfl
  apply Action.Yields.map
  unfold answerFirst
  rw [hpacket, Except.mapError, Action.ofExcept_ok_bind]
  apply (hopen.onSecond _).bind
  apply update_bind_yields
  exact (record_yields output _ _).bind (.pure _ _)

theorem proceed_yields {token : Option Bytes} {challenge : Option Challenge}
    {before after : χ × ω} {output : StepOutput}
    (hstep : (client.provider.context.step token).Yields before output after) :
    (client.call (.proceed token)).Yields (⟨.negotiating, challenge, some before.1⟩, before.2)
      (.outcome output.outcome)
      (⟨.ofComplete output.complete, challenge, some after.1⟩, after.2) := by
  apply call_yields rfl
  apply Action.Yields.map
  exact (onContext_yields hstep).bind (record_yields output _ _)

theorem close_yields {message plain reply : Bytes} {challenge : Option Challenge}
    {before asked unwrapped after : χ × ω}
    (hcomplete : client.provider.context.isComplete before = (true, asked))
    (hunwrap : (client.provider.context.unwrap message).Yields asked plain unwrapped)
    (hwrap : (client.provider.context.wrap [1, 0, 0, 0] false).Yields unwrapped reply after) :
    (client.call (.close message)).Yields (⟨.established, challenge, some before.1⟩, before.2)
      (.closing reply) (⟨.closed, challenge, some after.1⟩, after.2) := by
  have hask : client.provider.context.askComplete.Yields before true asked := by
    refine ⟨[], ?_⟩
    simp only [SecurityContext.askComplete, hcomplete]
  apply call_yields rfl
  apply Action.Yields.map
  apply (onContext_yields hask).bind
  rw [if_pos rfl]
  apply (onContext_yields hunwrap).bind
  apply Action.Yields.note_bind
  apply Action.Yields.note_bind
  apply (onContext_yields hwrap).bind
  apply Action.Yields.note_bind
  exact update_bind_yields (.pure _ _)

end Calls

/-! ## Rounds -/

/-- Outputs of steps of which only the last one is complete. -/
def rounds (early : List (Option Bytes)) (final : Option Bytes) : List StepOutput :=
  early.map (⟨·, false⟩) ++ [⟨final, true⟩]

theorem map_ofComplete_rounds (early : List (Option Bytes)) (final : Option Bytes) :
    (rounds early final).map (fun output => HandshakeState.ofComplete output.complete) =
      List.replicate early.length .negotiating ++ [.established] := by
  induction early with
  | nil => rfl
  | cons token early ih => exact congrArg (HandshakeState.negotiating :: ·) ih

/-- What the caller is told of a step, and the state of the exchange after it. -/
def told (output : StepOutput) : Answer × HandshakeState :=
  (.outcome output.outcome, .ofComplete output.complete)

section Rounds

variable {client : Client ω ν κ χ} {challenge : Challenge} {tokens : List (Option Bytes)}
  {outputs : List StepOutput} {early : List (Option Bytes)} {final : Option Bytes}

/-- The exchange goes from one output to the next, as long as they are incomplete, and is
established with the last one. -/
theorem succeeds_of_steps {output : StepOutput} {before after : χ × ω} {calls : List Call}
    {answers : List (Answer × HandshakeState)} {last : Exchange χ × ω}
    (houtputs : output :: outputs = rounds early final)
    (hsteps : client.provider.context.Steps before tokens outputs after)
    (hcalls : client.Succeeds (⟨.established, some challenge, some after.1⟩, after.2) calls
      answers last) :
    client.Succeeds (⟨.ofComplete output.complete, some challenge, some before.1⟩, before.2)
      (tokens.map .proceed ++ calls) (outputs.map told ++ answers) last := by
  -- The induction is on the incomplete outputs that are still to come. The exchange stands
  -- where the latest output has put it, so no case is special for the first step.
  induction early generalizing output outputs tokens before with
  | nil =>
      obtain ⟨rfl, rfl⟩ := List.cons.inj houtputs
      cases hsteps with
      | nil => exact hcalls
  | cons token early ih =>
      obtain ⟨rfl, hrest⟩ := List.cons.inj houtputs
      cases hsteps with
      | nil => exact absurd hrest.symm (List.append_ne_nil_of_right_ne_nil _ (List.cons_ne_nil _ _))
      | cons hstep hsteps => exact .cons (proceed_yields hstep) (ih hrest hsteps)

/-- The calls of a caller that takes an exchange to its end. -/
def login (packet : Bytes) (tokens : List (Option Bytes)) (message : Bytes) : List Call :=
  .begin (some packet) :: (tokens.map .proceed ++ [.close message])

theorem Script.succeeds {packet message reply : Bytes} {shared : ω} {first : StepOutput}
    {last : χ × ω} (hpacket : Challenge.decodeOptional (some packet) = .ok (some challenge))
    (houtputs : first :: outputs = rounds early final)
    (hscript : client.Script challenge shared tokens message (first :: outputs) reply last) :
    client.Succeeds ({}, shared) (login packet tokens message)
      ((.initial (.kerberos first.outcome), .ofComplete first.complete) ::
        (outputs.map told ++ [(.closing reply, .closed)]))
      (⟨.closed, some challenge, some last.1⟩, last.2) := by
  rcases hscript with ⟨hselect, hinitiate, hsteps, hcomplete, hunwrap, hwrap⟩
  cases hsteps with
  | cons hstep hsteps =>
      apply Succeeds.cons (begin_yields hpacket hselect hinitiate hstep)
      apply succeeds_of_steps houtputs hsteps
      exact .cons (close_yields hcomplete hunwrap hwrap) (.nil _)

end Rounds

/-! ## What reaches the context -/

section Watched

theorem watched_yields (event : Except AuthError α → ProviderEvent κ) {action : Action ω ν α}
    {shared next : ω} {value : α} (haction : action.Yields shared value next)
    (trace : List (ProviderEvent κ)) :
    (action.watched event).Yields (trace, shared) value (trace ++ [event (.ok value)], next) := by
  obtain ⟨notes, hrun⟩ := haction
  refine ⟨notes, ?_⟩
  simp only [Action.watched, hrun]

theorem watchedOn_yields (event : Except AuthError α → ProviderEvent κ)
    {action : Action (χ × ω) ν α} {state next : χ × ω} {value : α}
    (haction : action.Yields state value next) (trace : List (ProviderEvent κ)) :
    (action.watchedOn event).Yields (state.1, trace, state.2) value
      (next.1, trace ++ [event (.ok value)], next.2) := by
  obtain ⟨notes, hrun⟩ := haction
  refine ⟨notes, ?_⟩
  simp only [Action.watchedOn, Prod.eta, hrun]

/-- The steps among some events, told by their inputs and outputs. -/
structure StepsAre (events : List (ProviderEvent κ)) (inputs : List (Option Bytes))
    (outputs : List StepOutput) : Prop where
  inputs : (events.filterMap ProviderEvent.step?).map Prod.fst = inputs
  outputs : (events.filterMap ProviderEvent.step?).map Prod.snd = outputs.map .ok

theorem steps_watched {operations : SecurityContext ω ν χ} {state last : χ × ω}
    {inputs : List (Option Bytes)} {outputs : List StepOutput}
    (hsteps : operations.Steps state inputs outputs last) (trace : List (ProviderEvent κ)) :
    ∃ events, operations.watched.Steps (state.1, trace, state.2) inputs outputs
        (last.1, trace ++ events, last.2) ∧ StepsAre events inputs outputs := by
  induction hsteps generalizing trace with
  | nil =>
      refine ⟨[], ?_, rfl, rfl⟩
      rw [List.append_nil]
      exact .nil _
  | @cons _ _ _ input _ output _ hstep _ ih =>
      obtain ⟨events, hsteps, hinputs, houtputs⟩ := ih (trace ++ [.step input (.ok output)])
      rw [List.append_assoc] at hsteps
      refine ⟨_, .cons (watchedOn_yields (.step input) hstep trace) hsteps, ?_, ?_⟩
      · exact congrArg (input :: ·) hinputs
      · exact congrArg (Except.ok output :: ·) houtputs

variable {client : Client ω ν κ χ} {challenge : Challenge}

theorem initiatorCredential_watched {shared selected : ω} {credential : InitiatorCredential κ}
    (hselect : (client.initiatorCredential challenge).Yields shared credential selected) :
    ∃ events, (client.watched.initiatorCredential challenge).Yields ([], shared) credential
        (events, selected) ∧ events.filterMap ProviderEvent.step? = [] := by
  have hadds : (client.watched.initiatorCredential challenge).Adds Prod.fst ([], shared)
      fun events answer _ => client.Selection challenge events answer :=
    initiatorCredential_adds challenge ([], shared)
  obtain ⟨events, htrace, hselection, _⟩ := hadds
  obtain ⟨hresult, hshared, _⟩ :=
    initiatorCredential_related client.watched_related challenge ([], shared) shared rfl
  obtain ⟨notes, hrun⟩ := hselect
  rw [hrun] at hresult hshared
  refine ⟨events, ?_, hselection.steps⟩
  rcases hwatched : (client.watched.initiatorCredential challenge).run ([], shared) with
    ⟨error | value, ⟨trace, shared'⟩, notes'⟩
  · rw [hwatched] at hresult
    exact hresult.elim
  · rw [hwatched] at htrace hresult hshared
    refine ⟨notes', ?_⟩
    have hvalue := InitiatorCredential.eq_of_related hresult
    have htrace : trace = events := htrace
    have hshared : shared' = selected := hshared
    rw [hwatched, hvalue, htrace, hshared]

theorem Script.watched {shared : ω} {tokens : List (Option Bytes)} {message reply : Bytes}
    {outputs : List StepOutput} {last : χ × ω}
    (hscript : client.Script challenge shared tokens message outputs reply last) :
    ∃ events, client.watched.Script challenge ([], shared) tokens message outputs reply
        (last.1, events, last.2) ∧ StepsAre events (none :: tokens) outputs := by
  rcases hscript with ⟨hselect, hinitiate, hsteps, hcomplete, hunwrap, hwrap⟩
  rename_i credential _ _ _ stepped asked _ _
  obtain ⟨selection, hselect, hselection⟩ := initiatorCredential_watched hselect
  have hinitiate := watched_yields (fun answer => .initiate challenge.servicePrincipal credential
    Requirements.handshake (answer.map fun _ => ())) hinitiate selection
  obtain ⟨events, hsteps, hinputs, houtputs⟩ := steps_watched hsteps
    (selection ++ [.initiate challenge.servicePrincipal credential Requirements.handshake (.ok ())])
  have hcomplete : ∀ trace : List (ProviderEvent κ),
      client.watched.provider.context.isComplete (stepped.1, trace, stepped.2) =
        (true, asked.1, trace ++ [.asked true], asked.2) := by
    intro trace
    simp only [Client.watched, SecurityProvider.watched, SecurityContext.watched, Prod.eta,
      hcomplete]
  refine ⟨_, .played hselect hinitiate hsteps (hcomplete _)
    (watchedOn_yields (.unwrap message) hunwrap _)
    (watchedOn_yields (.wrap [1, 0, 0, 0] false) hwrap _), ?_, ?_⟩
  all_goals
    simp only [List.filterMap_append, List.filterMap_cons, List.filterMap_nil, hselection,
      ProviderEvent.step?, List.nil_append, List.append_nil]
  · exact hinputs
  · exact houtputs

end Watched

/-! ## A whole exchange -/

theorem Script.length_eq {client : Client ω ν κ χ} {challenge : Challenge} {shared : ω}
    {tokens : List (Option Bytes)} {message reply : Bytes} {outputs : List StepOutput}
    {last : χ × ω}
    (hscript : client.Script challenge shared tokens message outputs reply last) :
    outputs.length = tokens.length + 1 := by
  rcases hscript with ⟨_, _, hsteps, _⟩
  exact hsteps.length_eq.symm

/-- If the provider plays its part, the caller gets every token of the context, in order,
and at last its closing message; the context gets every token of the caller, in order. -/
theorem script_played_out (client : Client ω ν κ χ) {packet message reply : Bytes}
    {challenge : Challenge} {shared : ω} {tokens early : List (Option Bytes)}
    {final : Option Bytes} {last : χ × ω} (hpacket : Challenge.decode packet = .ok challenge)
    (hprincipal : challenge.servicePrincipal ≠ "")
    (hscript : client.Script challenge shared tokens message (rounds early final) reply last) :
    (∃ first rest, first :: rest = (rounds early final).map StepOutput.outcome ∧
        (client.run (login packet tokens message) ({}, shared)).map Outcome.result =
          (.initial (.kerberos first) :: (rest.map .outcome ++ [.closing reply])).map .ok) ∧
      (client.run (login packet tokens message) ({}, shared)).map
          (fun outcome => outcome.state.1.state) =
        List.replicate tokens.length .negotiating ++ [.established, .closed] ∧
      (client.watched.history (login packet tokens message) (fresh shared)).map
          (fun visit => unwatched visit.outcome) =
        client.run (login packet tokens message) ({}, shared) ∧
      StepsAre (written (client.watched.reached (login packet tokens message) (fresh shared)))
        (none :: tokens) (rounds early final) := by
  obtain ⟨first, outputs, houtputs⟩ : ∃ first outputs, first :: outputs = rounds early final := by
    cases early <;> exact ⟨_, _, rfl⟩
  have hlength := hscript.length_eq
  have hread := Challenge.decodeOptional_eq_some_iff.mpr ⟨packet, rfl, hpacket, hprincipal⟩
  rw [← houtputs] at hscript
  have hsucceeds := hscript.succeeds hread houtputs
  obtain ⟨events, hwatched, hsteps⟩ := hscript.watched
  have hreached := (hwatched.succeeds hread houtputs).reached
  refine ⟨⟨first.outcome, outputs.map StepOutput.outcome, ?_, ?_⟩, ?_,
    client.map_unwatched_history _ {} [] shared, ?_⟩
  · rw [← houtputs]
    rfl
  · rw [hsucceeds.results]
    simp [told]
  · have hrounds : early.length = tokens.length := by simpa [rounds] using hlength
    have hstates := map_ofComplete_rounds early final
    rw [← houtputs, hrounds] at hstates
    have htold : outputs.map (Prod.snd ∘ told) =
        outputs.map fun output => HandshakeState.ofComplete output.complete := rfl
    rw [hsucceeds.states, List.map_cons, List.map_append, List.map_map, htold, ← List.cons_append]
    exact (congrArg (· ++ [HandshakeState.closed]) hstates).trans (List.append_assoc _ _ _)
  · have hwritten : written (client.watched.reached (login packet tokens message)
        (fresh shared)) = events := congrArg written hreached
    rw [hwritten, ← houtputs]
    exact hsteps

/-- Three rounds, in the second of which neither side has a token. -/
theorem three_rounds_played_out :
    let client : Client _ _ _ _ := ⟨StandIn.ProviderScript.provider {}, ⟨some "alice", none⟩,
      ⟨some "c", none, []⟩⟩
    let stage : StandIn.Stage :=
      { caches := [("FILE:c", .holding ⟨"alice", some "A"⟩ ⟨0, 1⟩)]
        steps := [.yielding ⟨some [4], false⟩ none, .yielding ⟨none, false⟩ none,
          .yielding ⟨some [5], true⟩ none] }
    let packet : Bytes := [1, 0, 115, 1, 0, 65]
    let calls := login packet [some [6], none] [7]
    Challenge.decode packet = .ok ⟨"s", "A"⟩ ∧
      (∃ last, client.Script ⟨"s", "A"⟩ stage [some [6], none] [7]
        (rounds [some [4], none] (some [5])) [1, 0, 0, 0] last) ∧
      (∃ first rest, first :: rest = (rounds [some [4], none] (some [5])).map StepOutput.outcome ∧
        (client.run calls ({}, stage)).map Outcome.result =
          (.initial (.kerberos first) :: (rest.map .outcome ++ [.closing [1, 0, 0, 0]])).map .ok) ∧
      (client.run calls ({}, stage)).map (fun outcome => outcome.state.1.state) =
        [.negotiating, .negotiating, .established, .closed] ∧
      (client.watched.history calls (fresh stage)).map (fun visit => unwatched visit.outcome) =
        client.run calls ({}, stage) ∧
      StepsAre (written (client.watched.reached calls (fresh stage)))
        [none, some [6], none] (rounds [some [4], none] (some [5])) := by
  dsimp only
  have hdecode : Challenge.decode [1, 0, 115, 1, 0, 65] = .ok ⟨"s", "A"⟩ :=
    Challenge.decode_eq_ok_iff.mpr (by rfl)
  refine ⟨hdecode, (and_iff_left_of_imp ?_).mpr ?_⟩
  · intro hscript
    obtain ⟨last, hscript⟩ := hscript
    exact script_played_out _ hdecode (by decide) hscript
  · apply Exists.intro
    apply Script.played ⟨_, by rfl⟩ ⟨_, by rfl⟩
    · exact .cons ⟨_, by rfl⟩ (.cons ⟨_, by rfl⟩ (.cons ⟨_, by rfl⟩ (.nil _)))
    · rfl
    · exact ⟨_, by rfl⟩
    · exact ⟨_, by rfl⟩

end Client

end KerberosLogin
