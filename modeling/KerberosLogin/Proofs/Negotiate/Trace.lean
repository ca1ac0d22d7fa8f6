import KerberosLogin.Proofs.Backend
import KerberosLogin.Proofs.Gssapi.CacheUse

/-! # What a context asks of the Negotiate package

The package is recorded by writing down every call with its arguments. That goes unnoticed.
Each call on a context ends in one of nine ways, which say what was asked of the package,
what the result is, and what has become of the context.
-/

namespace KerberosLogin

variable {ω ν χ δ γ ε υ η ψ α : Type}

/-! ## Calls on a context -/

namespace SecurityContext

/-- A call on a context. -/
inductive Call where
  | step (input : Option Bytes)
  | wrap (payload : Bytes) (encrypt : Bool)
  | unwrap (message : Bytes)

/-- What a call yields. -/
inductive Answer where
  | stepped (output : StepOutput)
  | message (bytes : Bytes)

/-- One call, with the state it was made in and what it has left behind. -/
structure Turn (ω ν χ : Type) where
  call : Call
  before : χ × ω
  outcome : Outcome (χ × ω) ν Answer

variable (operations : SecurityContext ω ν χ)

/-- Makes one call. -/
def act : Call → Action (χ × ω) ν Answer
  | .step input => .stepped <$> operations.step input
  | .wrap payload encrypt => .message <$> operations.wrap payload encrypt
  | .unwrap message => .message <$> operations.unwrap message

/-- Makes calls in turn, each from where the one before it has left the context. -/
def history : List Call → χ × ω → List (Turn ω ν χ)
  | [], _ => []
  | call :: calls, state =>
    let outcome := (operations.act call).run state
    ⟨call, state, outcome⟩ :: history calls outcome.state

/-- Whether the call protects or verifies a message. -/
def Call.protects : Call → Bool
  | step _ => false
  | wrap _ _ => true
  | unwrap _ => true

/-- Whether a message was protected. -/
def Call.wrapped : Call → Except AuthError Answer → Bool
  | wrap _ _, .ok _ => true
  | _, _ => false

/-- Whether a message was verified. -/
def Call.unwrapped : Call → Except AuthError Answer → Bool
  | unwrap _, .ok _ => true
  | _, _ => false

/-- The turn, without what was written down. -/
def Turn.unrecorded (turn : Turn (List ε × ω) ν χ) : Turn ω ν χ :=
  ⟨turn.call, (turn.before.1, turn.before.2.2), turn.outcome.result,
    (turn.outcome.state.1, turn.outcome.state.2.2), turn.outcome.notes⟩

/-- Calls that are recorded unnoticed make up the same history. -/
theorem map_unrecorded_history_of_related {operations : SecurityContext ω ν χ}
    {recording : SecurityContext (List ε × ω) ν χ} {calls : List Call}
    (hact : ∀ call ∈ calls, Action.Related
      (Outcome.PairRelated Eq fun recorded shared => recorded.2 = shared) some some Eq
      (recording.act call) (operations.act call))
    (context : χ) (trace : List ε) (shared : ω) :
    (recording.history calls (context, trace, shared)).map Turn.unrecorded =
      operations.history calls (context, shared) := by
  induction calls generalizing context trace shared with
  | nil => rfl
  | cons call calls ih =>
      obtain ⟨hresult, ⟨hcontext, hshared⟩, hnotes⟩ :=
        hact call List.mem_cons_self (context, trace, shared) (context, shared) ⟨rfl, rfl⟩
      have ih := ih fun later hlater => hact later (List.mem_cons_of_mem _ hlater)
      simp only [history, List.map_cons, Turn.unrecorded]
      generalize (recording.act call).run (context, trace, shared) = outcome
        at hresult hcontext hshared hnotes ⊢
      generalize (operations.act call).run (context, shared) = outcome'
        at hresult hcontext hshared hnotes ⊢
      obtain ⟨result, ⟨reached, trace', shared'⟩, notes⟩ := outcome
      obtain ⟨result', ⟨_, _⟩, notes'⟩ := outcome'
      dsimp only at hcontext hshared
      subst hcontext hshared
      rw [List.filterMap_some, List.filterMap_some] at hnotes
      have hresult : result = result' := Outcome.eq_of_resultsRelated hresult
      have hnotes : notes = notes' := hnotes
      rw [hresult, hnotes, ih]

end SecurityContext

open SecurityContext (Turn)

namespace Negotiate

/-! ## Recording -/

/-- A call of the package, without the state of the context. -/
inductive Call (υ η : Type) where
  | newClient
  | username (user : String) (realm : Option String)
  | acquire (identity : Option (υ × Password))
  | advance (flags : RequestFlags) (target : String) (input : Option Bytes) (handle : Option η)
  | trailerSize
  | encrypt (plain : Bool) (trailer payload : Bytes) (sequence : UInt32)
  | decrypt (message : Bytes) (sequence : UInt32)

/-- Writes down a call that works on a part of its own, and makes it. -/
def recordOn (entry : γ → ε) (call : LibraryCall (γ × ω) δ α) :
    LibraryCall (γ × List ε × ω) δ α :=
  fun (own, trace, shared) =>
    let (answer, own', shared') := call (own, shared)
    (answer, own', trace ++ [entry own], shared')

open Gssapi (recordCall)

namespace Package

variable (library : Package ω υ η ψ)

/-- The same package, which writes down all calls. -/
def recorded : Package (List (Call υ η) × ω) υ η ψ where
  newClient := recordCall .newClient library.newClient
  username user realm := recordCall (.username user realm) (library.username user realm)
  acquire identity := recordOn (fun _ => .acquire identity) (library.acquire identity)
  advance flags target input :=
    recordOn (fun lent => .advance flags target input lent.1) (library.advance flags target input)
  trailerSize := recordOn (fun _ => .trailerSize) library.trailerSize
  encrypt plain trailer payload sequence :=
    recordOn (fun _ => .encrypt plain trailer payload sequence)
      (library.encrypt plain trailer payload sequence)
  decrypt message sequence :=
    recordOn (fun _ => .decrypt message sequence) (library.decrypt message sequence)

variable {library}

/-! ## Recording goes unnoticed -/

/-- An action on a recorded context, and the action it is a recording of. -/
abbrev Unnoticed (recording : Action (Context η ψ × List (Call υ η) × ω) Note α)
    (action : Action (Context η ψ × ω) Note α) : Prop :=
  Action.Related (Outcome.PairRelated Eq fun recorded shared => recorded.2 = shared) some some Eq
    recording action

theorem get_unnoticed :
    Action.Related (Outcome.PairRelated Eq fun (recorded : List (Call υ η) × ω) shared =>
      recorded.2 = shared) (some : Note → Option Note) some
      (fun state state' => state.1 = state'.1)
      (Action.get : Action (Context η ψ × List (Call υ η) × ω) Note _) Action.get := by
  rintro ⟨context, recorded⟩ ⟨_, shared⟩ ⟨rfl, hshared⟩
  exact ⟨rfl, ⟨rfl, hshared⟩, rfl⟩

theorem ensureEstablished_unnoticed (state : ContextState) (operation : String) :
    Unnoticed (η := η) (ψ := ψ) (υ := υ) (ω := ω) (state.ensureEstablished operation)
      (state.ensureEstablished operation) :=
  .ite Iff.rfl (.pure rfl) (.fail _)

theorem call_unnoticed (explain : Fault → AuthError) (entry : ψ → Call υ η)
    (request : LibraryCall (ψ × ω) Fault α) :
    Unnoticed (Context.call explain (recordOn entry request)) (Context.call explain request) := by
  rintro ⟨context, trace, shared⟩ ⟨_, _⟩ ⟨rfl, rfl⟩
  exact ⟨Outcome.resultsRelated_refl (fun _ => rfl) _, ⟨rfl, rfl⟩, rfl⟩

theorem update_unnoticed (change : Context η ψ → Context η ψ) :
    Unnoticed (υ := υ) (ω := ω) (Context.update change) (Context.update change) := by
  apply Action.Related.modify
  rintro ⟨context, recorded⟩ ⟨_, shared⟩ ⟨rfl, hshared⟩
  exact ⟨rfl, hshared⟩

theorem step_unnoticed (input : Option Bytes) :
    Unnoticed (library.recorded.step input) (library.step input) := by
  rintro ⟨context, trace, shared⟩ ⟨_, _⟩ ⟨rfl, rfl⟩
  rcases hadvance : library.advance context.flags context.target input
    ((context.handle, context.package), shared) with ⟨fault | ⟨status, output⟩, ⟨_, _⟩, _⟩
  · simp only [step, recorded, recordOn, hadvance]
    exact ⟨rfl, ⟨rfl, rfl⟩, rfl⟩
  · simp only [step, recorded, recordOn, hadvance]
    cases status.contextState with
    | error error => exact ⟨rfl, ⟨rfl, rfl⟩, rfl⟩
    | ok state => exact ⟨rfl, ⟨rfl, rfl⟩, rfl⟩

theorem wrap_unnoticed (payload : Bytes) (encrypt : Bool) :
    Unnoticed (library.recorded.wrap payload encrypt) (library.wrap payload encrypt) := by
  apply get_unnoticed.bind
  rintro ⟨context, recorded⟩ ⟨_, shared⟩ rfl
  apply (ensureEstablished_unnoticed _ _).bind_eq
  intro _
  apply (call_unnoticed _ (fun _ => .trailerSize) library.trailerSize).bind_eq
  intro size
  apply (call_unnoticed _ (fun _ => .encrypt _ _ _ _) (library.encrypt _ _ _ _)).bind_eq
  rintro ⟨trailer, message⟩
  apply (update_unnoticed _).bind_eq
  intro _
  exact .pure rfl

theorem unwrap_unnoticed (message : Bytes) :
    Unnoticed (library.recorded.unwrap message) (library.unwrap message) := by
  apply get_unnoticed.bind
  rintro ⟨context, recorded⟩ ⟨_, shared⟩ rfl
  apply (ensureEstablished_unnoticed _ _).bind_eq
  intro _
  apply (call_unnoticed _ (fun _ => .decrypt _ _) (library.decrypt _ _)).bind_eq
  intro payload
  apply (update_unnoticed _).bind_eq
  intro _
  exact .pure rfl

theorem act_unnoticed (call : SecurityContext.Call) :
    Unnoticed (library.recorded.context.act call) (library.context.act call) := by
  cases call with
  | step input => exact (step_unnoticed input).map fun _ _ => congrArg _
  | wrap payload encrypt => exact (wrap_unnoticed payload encrypt).map fun _ _ => congrArg _
  | unwrap message => exact (unwrap_unnoticed message).map fun _ _ => congrArg _

variable (library) in
theorem map_unrecorded_history (calls : List SecurityContext.Call) (context : Context η ψ)
    (trace : List (Call υ η)) (shared : ω) :
    (library.recorded.context.history calls (context, trace, shared)).map Turn.unrecorded =
      library.context.history calls (context, shared) :=
  SecurityContext.map_unrecorded_history_of_related (fun call _ => act_unnoticed call) context
    trace shared

/-! ## What one call does -/

/-- What is asked of the package, the result, and the context that is left. -/
inductive Effect (context : Context η ψ) : SecurityContext.Call → List (Call υ η) →
    Except AuthError SecurityContext.Answer → Context η ψ → Prop where
  | misused {call : SecurityContext.Call} {error : AuthError} (hcall : call.protects = true)
      (hstate : context.state ≠ .established) (hkind : error.kind = .protocolMisuse) :
      Effect context call [] (.error error) context
  | unmade (input : Option Bytes) (fault : StepFault) (package : ψ) :
      Effect context (.step input)
        [.advance context.flags context.target input context.handle] (.error fault.toError)
        { context with handle := none, package := package }
  | unexpected (input : Option Bytes) (error : AuthError) (handle : Option η) (package : ψ) :
      Effect context (.step input)
        [.advance context.flags context.target input context.handle] (.error error)
        { context with handle := handle, package := package }
  | stepped (input : Option Bytes) {output : StepOutput} {state : ContextState}
      (hcomplete : output.complete = true ↔ state = .established) (handle : Option η)
      (package : ψ) :
      Effect context (.step input)
        [.advance context.flags context.target input context.handle] (.ok (.stepped output))
        { context with handle := handle, package := package, state := state }
  | unsized (payload : Bytes) (encrypt : Bool) (error : AuthError) (package : ψ) :
      Effect context (.wrap payload encrypt) [.trailerSize] (.error error)
        { context with package := package }
  | unprotected (payload : Bytes) (encrypt : Bool) (size : Nat) (error : AuthError)
      (package : ψ) :
      Effect context (.wrap payload encrypt)
        [.trailerSize,
          .encrypt (!encrypt) (List.replicate size 0) payload context.sendSequence]
        (.error error) { context with package := package }
  | wrapped (payload : Bytes) (encrypt : Bool) (size : Nat) (message : Bytes) (package : ψ) :
      Effect context (.wrap payload encrypt)
        [.trailerSize,
          .encrypt (!encrypt) (List.replicate size 0) payload context.sendSequence]
        (.ok (.message message))
        { context with package := package, sendSequence := context.sendSequence + 1 }
  | unverified (message : Bytes) (error : AuthError) (package : ψ) :
      Effect context (.unwrap message) [.decrypt message context.receiveSequence] (.error error)
        { context with package := package }
  | unwrapped (message payload : Bytes) (package : ψ) :
      Effect context (.unwrap message) [.decrypt message context.receiveSequence]
        (.ok (.message payload))
        { context with package := package, receiveSequence := context.receiveSequence + 1 }

variable (library)

/-- The error of a call that is made too early. -/
theorem exists_misuse {call : SecurityContext.Call} (hcall : call.protects = true)
    {context : Context η ψ} (hstate : context.state ≠ .established) (shared : ω) :
    ∃ error : AuthError, error.kind = .protocolMisuse ∧
      (library.context.act call).run (context, shared) = ⟨.error error, (context, shared), []⟩ := by
  have hrefused : ∀ operation, ∃ error : AuthError, error.kind = .protocolMisuse ∧
      (context.state.ensureEstablished operation : Action (Context η ψ × ω) Note Unit) =
        Action.fail error :=
    fun operation => ⟨_, rfl, if_neg hstate⟩
  cases call with
  | step input => cases hcall
  | wrap payload encrypt =>
      obtain ⟨error, hkind, hfail⟩ := hrefused "wrap"
      refine ⟨error, hkind, ?_⟩
      simp [SecurityContext.act, Package.context, wrap, Action.run_bind, hfail, Except.map]
  | unwrap message =>
      obtain ⟨error, hkind, hfail⟩ := hrefused "unwrap"
      refine ⟨error, hkind, ?_⟩
      simp [SecurityContext.act, Package.context, unwrap, Action.run_bind, hfail, Except.map]

variable {library} {context : Context η ψ} {trace : List (Call υ η)} {shared : ω}

/-- How a call on a context over the recorded package ends. -/
def Effective (library : Package ω υ η ψ) (call : SecurityContext.Call) (context : Context η ψ)
    (trace : List (Call υ η)) (shared : ω) : Prop :=
  ∃ calls result reached shared',
    (library.recorded.context.act call).Ends (context, trace, shared) result
      (reached, trace ++ calls, shared') ∧
    Effect context call calls result reached

theorem step_effective (input : Option Bytes) :
    library.Effective (.step input) context trace shared := by
  have hends := Action.ends_run (library.recorded.step input) (context, trace, shared)
  rcases hadvance : library.advance context.flags context.target input
    ((context.handle, context.package), shared) with ⟨fault | ⟨status, token⟩, ⟨handle, package⟩, _⟩
  · simp only [step, recorded, recordOn, hadvance] at hends
    exact ⟨_, _, _, _, hends.map _, .unmade input fault package⟩
  · simp only [step, recorded, recordOn, hadvance] at hends
    cases hstate : status.contextState with
    | error error =>
        simp only [hstate] at hends
        exact ⟨_, _, _, _, hends.map _, .unexpected input error handle package⟩
    | ok state =>
        simp only [hstate] at hends
        exact ⟨_, _, _, _, hends.map _, .stepped input decide_eq_true_iff handle package⟩

theorem wrap_effective (payload : Bytes) (encrypt : Bool) (hstate : context.state = .established) :
    library.Effective (.wrap payload encrypt) context trace shared := by
  have hends := Action.ends_run (library.recorded.wrap payload encrypt) (context, trace, shared)
  simp only [wrap, ContextState.ensureEstablished_of_eq hstate, Action.run_bind, Action.run_get,
    Action.run_pure, Outcome.andThen_ok, Context.call, Context.update, recorded, recordOn] at hends
  rcases hsize : library.trailerSize (context.package, shared) with ⟨fault | size, package, sized⟩
  · simp only [hsize, Except.mapError, Outcome.andThen_error] at hends
    exact ⟨_, _, _, _, hends.map _, .unsized payload encrypt _ package⟩
  rcases hseal : library.encrypt (!encrypt) (List.replicate size 0) payload context.sendSequence
    (package, sized) with ⟨fault | ⟨trailer, message⟩, package, sealed⟩
  · simp only [hsize, hseal, Except.mapError, Outcome.andThen_ok, Outcome.andThen_error,
      List.append_assoc] at hends
    exact ⟨_, _, _, _, hends.map _, .unprotected payload encrypt size _ package⟩
  · simp only [hsize, hseal, Except.mapError, Outcome.andThen_ok, Action.run_modify,
      List.append_assoc] at hends
    exact ⟨_, _, _, _, hends.map _, .wrapped payload encrypt size _ package⟩

theorem unwrap_effective (message : Bytes) (hstate : context.state = .established) :
    library.Effective (.unwrap message) context trace shared := by
  have hends := Action.ends_run (library.recorded.unwrap message) (context, trace, shared)
  simp only [unwrap, ContextState.ensureEstablished_of_eq hstate, Action.run_bind, Action.run_get,
    Action.run_pure, Outcome.andThen_ok, Context.call, Context.update, recorded, recordOn] at hends
  rcases hopen : library.decrypt message context.receiveSequence (context.package, shared) with
    ⟨fault | payload, package, opened⟩
  · simp only [hopen, Except.mapError, Outcome.andThen_error] at hends
    exact ⟨_, _, _, _, hends.map _, .unverified message _ package⟩
  · simp only [hopen, Except.mapError, Outcome.andThen_ok, Action.run_modify] at hends
    exact ⟨_, _, _, _, hends.map _, .unwrapped message payload package⟩

/-- Every call on a context has one of the effects. -/
theorem act_effective (library : Package ω υ η ψ) (call : SecurityContext.Call)
    (context : Context η ψ) (trace : List (Call υ η)) (shared : ω) :
    library.Effective call context trace shared := by
  by_cases hmisused : call.protects = true ∧ context.state ≠ .established
  · obtain ⟨error, hkind, hrun⟩ :=
      library.recorded.exists_misuse hmisused.1 hmisused.2 (trace, shared)
    refine ⟨[], _, context, shared, ⟨[], ?_⟩, .misused hmisused.1 hmisused.2 hkind⟩
    rw [List.append_nil, hrun]
  · have hstate : call.protects = true → context.state = .established := by simpa using hmisused
    cases call with
    | step input => exact step_effective input
    | wrap payload encrypt => exact wrap_effective payload encrypt (hstate rfl)
    | unwrap message => exact unwrap_effective message (hstate rfl)

end Package

end Negotiate

end KerberosLogin
