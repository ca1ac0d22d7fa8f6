import KerberosLogin.Proofs.Handshake.Ending

/-! # The order of calls

Whatever a provider answers and whatever its caller asks for, the calls that reach
the provider are the beginning of one script. Each is made only where all before it
have succeeded, and steps go on, or come to an end, as the last one has said.
-/

namespace KerberosLogin

variable {ω ν κ χ : Type}

/-! ## Permitted events -/

namespace ProviderEvent

/-- Whether nothing was answered with an error. -/
def Unfailing (events : List (ProviderEvent κ)) : Prop :=
  ∀ event ∈ events, event.error? = none

/-- Whether an event may follow others. -/
structure Permitted (before : List (ProviderEvent κ)) (event : ProviderEvent κ) : Prop where
  unfailing : Unfailing before
  step : ∀ input answer, event = .step input answer → ∀ last ∈ lastStep? before,
    ∃ output, last.2 = .ok output ∧ output.complete = false
  unwrap : ∀ message answer, event = .unwrap message answer →
    (∃ input output, lastStep? before = some (input, .ok output) ∧ output.complete = true) ∧
      before.getLast? = some (.asked true)

/-- Events of which each may follow those before it. -/
inductive Orderly : List (ProviderEvent κ) → Prop where
  | nil : Orderly []
  | snoc {before : List (ProviderEvent κ)} {event : ProviderEvent κ} (horderly : Orderly before)
      (hpermitted : Permitted before event) : Orderly (before ++ [event])

theorem unfailing_nil : Unfailing ([] : List (ProviderEvent κ)) :=
  fun _ hevent => absurd hevent List.not_mem_nil

theorem Unfailing.snoc {events : List (ProviderEvent κ)} {event : ProviderEvent κ}
    (hunfailing : Unfailing events) (hevent : event.error? = none) :
    Unfailing (events ++ [event]) := by
  intro earlier hearlier
  rcases List.mem_append.mp hearlier with hearlier | hearlier
  · exact hunfailing earlier hearlier
  · rw [List.mem_singleton.mp hearlier]
    exact hevent

/-- Where nothing has failed, all may follow but a step or the server's message. -/
theorem Unfailing.permitted {before : List (ProviderEvent κ)} (hunfailing : Unfailing before)
    {event : ProviderEvent κ} (hstep : event.step? = none)
    (hunwrap : ∀ message answer, event ≠ .unwrap message answer) : Permitted before event where
  unfailing := hunfailing
  step := by
    rintro input answer rfl
    cases hstep
  unwrap message answer hevent := absurd hevent (hunwrap message answer)

theorem Unfailing.permitted_step {before : List (ProviderEvent κ)}
    (hunfailing : Unfailing before)
    (hlast : ∀ last ∈ lastStep? before, ∃ output, last.2 = .ok output ∧ output.complete = false)
    (input : Option Bytes) (answer : Except AuthError StepOutput) :
    Permitted before (.step input answer) where
  unfailing := hunfailing
  step _ _ _ := hlast
  unwrap _ _ := nofun

theorem Orderly.permitted {events : List (ProviderEvent κ)} (horderly : Orderly events) :
    ∀ before event after, events = before ++ event :: after → Permitted before event := by
  induction horderly with
  | nil =>
      intro before event after hsplit
      cases before <;> cases hsplit
  | @snoc earlier last _ hpermitted ih =>
      intro before event after hsplit
      -- The event is the one that came last, or it has its place among the earlier ones.
      rcases List.eq_nil_or_concat after with rfl | ⟨between, event', rfl⟩
      · obtain ⟨rfl, hlast⟩ := List.append_inj' hsplit rfl
        cases hlast
        exact hpermitted
      · rw [List.concat_eq_append, ← List.cons_append, ← List.append_assoc] at hsplit
        obtain ⟨hsplit, _⟩ := List.append_inj' hsplit rfl
        exact ih before event between hsplit

end ProviderEvent

namespace Client

/-! ## The script -/

/-- The further token that a call brings. -/
def Call.token? : Call → Option (Option Bytes)
  | .proceed token => some token
  | _ => none

/-- The closing message that a call brings. -/
def Call.message? : Call → Option Bytes
  | .close message => some message
  | _ => none

/-- The tokens of the accepted calls. -/
def tokens (answered : List Exchanged) : List (Option Bytes) :=
  answered.filterMap fun reply => reply.1.token?

/-- The closing messages of the accepted calls. -/
def messages (answered : List Exchanged) : List Bytes :=
  answered.filterMap fun reply => reply.1.message?

/-- Whether an accepted call has brought a challenge. -/
def Challenged (answered : List Exchanged) (challenge : Challenge) : Prop :=
  ∃ initial answer, (Call.begin initial, answer) ∈ answered ∧
    Challenge.decodeOptional initial = .ok (some challenge)

theorem tokens_append (first second : List Exchanged) :
    tokens (first ++ second) = tokens first ++ tokens second :=
  List.filterMap_append

theorem messages_append (first second : List Exchanged) :
    messages (first ++ second) = messages first ++ messages second :=
  List.filterMap_append

variable (client : Client ω ν κ χ)

/-- The calls that select a credential. -/
def selectionScript (challenge : Challenge) : List (ProviderCall κ) :=
  if client.embeds then [] else [.resolve (client.request challenge) client.environment]

/-- The calls of a negotiation. -/
def negotiationScript (challenge : Challenge) (credential : InitiatorCredential κ)
    (tokens : List (Option Bytes)) : List (ProviderCall κ) :=
  client.selectionScript challenge ++
    .initiate challenge.servicePrincipal credential Requirements.handshake :: .step none ::
      tokens.map .step

theorem negotiationScript_snoc (challenge : Challenge) (credential : InitiatorCredential κ)
    (tokens : List (Option Bytes)) (token : Option Bytes) :
    client.negotiationScript challenge credential (tokens ++ [token]) =
      client.negotiationScript challenge credential tokens ++ [.step token] := by
  rw [negotiationScript, List.map_append, negotiationScript, List.append_assoc]
  rfl

/-- The calls of an exchange that goes through to its end. -/
def script (challenge : Challenge) (credential : InitiatorCredential κ)
    (tokens : List (Option Bytes)) (message : Bytes) : List (ProviderCall κ) :=
  client.negotiationScript challenge credential tokens ++
    [.unwrap message, .wrap [1, 0, 0, 0] false]

variable {client} {challenge : Challenge} {answered : List Exchanged}
  {events : List (ProviderEvent κ)} {complete : Bool} {exchange : Exchange χ}

theorem Selection.calls {answer : Except AuthError (InitiatorCredential κ)}
    (hselection : client.Selection challenge events answer) :
    events.filterMap ProviderEvent.call? = client.selectionScript challenge := by
  cases hselection with
  | own hembeds => rw [selectionScript, if_pos hembeds, List.filterMap_nil]
  | resolved hembeds =>
      rw [selectionScript, hembeds, if_neg Bool.false_ne_true]
      rfl

theorem Opening.calls_prefix {error : AuthError}
    (hopening : client.Opening challenge events (.error error)) :
    ∃ credential, events.filterMap ProviderEvent.call? <+:
      client.negotiationScript challenge credential [] := by
  cases hopening with
  | unselected hselection =>
      rw [hselection.calls]
      exact ⟨.default, List.prefix_append _ _⟩
  | @uninitiated _ credential hselection =>
      rw [List.filterMap_append, hselection.calls]
      exact ⟨credential, [.step none], List.append_assoc _ _ _⟩
  | @stepped _ credential hselection =>
      rw [List.filterMap_append, hselection.calls]
      exact ⟨credential, List.prefix_rfl⟩

theorem Negotiation.calls (hnegotiation : client.Negotiation challenge answered events complete) :
    ∃ credential, events.filterMap ProviderEvent.call? =
      client.negotiationScript challenge credential (tokens answered) := by
  induction hnegotiation with
  | opened _ hopening =>
      obtain ⟨earlier, credential, hselection, rfl⟩ := hopening.exists_step
      rw [List.filterMap_append, hselection.calls]
      exact ⟨credential, rfl⟩
  | stepped _ token output ih =>
      obtain ⟨credential, hcalls⟩ := ih
      refine ⟨credential, ?_⟩
      rw [List.filterMap_append, hcalls, tokens_append]
      exact (client.negotiationScript_snoc _ _ _ _).symm

theorem Negotiation.messages_eq
    (hnegotiation : client.Negotiation challenge answered events complete) :
    messages answered = [] := by
  induction hnegotiation with
  | opened => rfl
  | stepped _ _ _ ih => rw [messages_append, ih]; rfl

theorem Closing.calls_prefix {message : Bytes} {answer : Except AuthError Bytes}
    (hclosing : Closing message events answer) :
    events.filterMap ProviderEvent.call? <+: [.unwrap message, .wrap [1, 0, 0, 0] false] := by
  cases hclosing with
  | unestablished => exact List.nil_prefix
  | unverified => exact ⟨[_], rfl⟩
  | verified => exact List.prefix_rfl

theorem Negotiation.challenged_append
    (hnegotiation : client.Negotiation challenge answered events complete)
    (later : List Exchanged) : Challenged (answered ++ later) challenge := by
  obtain ⟨initial, outcome, hmem, hpacket⟩ := hnegotiation.exists_begin
  exact ⟨initial, _, List.mem_append_left _ hmem, hpacket⟩

/-- Whether calls are the beginning of the script for a challenge among the accepted
calls, for their tokens and for their closing message, if they bring one. -/
def OnScript (client : Client ω ν κ χ) (answered : List Exchanged)
    (calls : List (ProviderCall κ)) : Prop :=
  ∃ challenge credential message, Challenged answered challenge ∧
    calls <+: client.script challenge credential (tokens answered) message ∧
    ∀ given ∈ messages answered, given = message

theorem Negotiation.onScript_closing
    (hnegotiation : client.Negotiation challenge answered events true) {message : Bytes}
    {later : List (ProviderEvent κ)} {answer : Except AuthError Bytes}
    (hclosing : Closing message later answer) (reply : Except AuthError Answer) :
    client.OnScript (answered ++ [(.close message, reply)])
      ((events ++ later).filterMap ProviderEvent.call?) := by
  obtain ⟨credential, hcalls⟩ := hnegotiation.calls
  refine ⟨challenge, credential, message, hnegotiation.challenged_append _, ?_, ?_⟩
  · rw [List.filterMap_append, hcalls, tokens_append, script]
    have hnone : tokens [(Call.close message, reply)] = [] := rfl
    rw [hnone, List.append_nil]
    exact (List.prefix_append_right_inj _).mpr hclosing.calls_prefix
  · rw [messages_append, hnegotiation.messages_eq]
    intro given hgiven
    exact List.mem_singleton.mp hgiven

/-- What reaches the provider is nothing, or it is on the script. -/
theorem Dialogue.calls (hdialogue : client.Dialogue answered events exchange) :
    events.filterMap ProviderEvent.call? = [] ∨
      client.OnScript answered (events.filterMap ProviderEvent.call?) := by
  cases hdialogue with
  | fresh | unbegun | fellBack => exact .inl rfl
  | unopened hpacket hopening =>
      obtain ⟨credential, hprefix⟩ := hopening.calls_prefix
      exact .inr ⟨_, credential, [], ⟨_, _, List.mem_singleton_self _, hpacket⟩,
        hprefix.trans (List.prefix_append _ _), nofun⟩
  | underway hnegotiation =>
      obtain ⟨credential, hcalls⟩ := hnegotiation.calls
      have hchallenged := hnegotiation.challenged_append []
      rw [List.append_nil] at hchallenged
      rw [hcalls]
      refine .inr ⟨_, credential, [], hchallenged, List.prefix_append _ _, ?_⟩
      rw [hnegotiation.messages_eq]
      exact nofun
  | @unstepped challenge earlier _ hnegotiation token error =>
      obtain ⟨credential, hcalls⟩ := hnegotiation.calls
      refine .inr ⟨challenge, credential, [], hnegotiation.challenged_append _, ?_, ?_⟩
      · rw [List.filterMap_append, hcalls, tokens_append, script]
        have hsnoc := client.negotiationScript_snoc challenge credential (tokens earlier) token
        exact hsnoc ▸ List.prefix_append _ _
      · rw [messages_append, hnegotiation.messages_eq]
        exact nofun
  | unclosed hnegotiation hclosing => exact .inr (hnegotiation.onScript_closing hclosing _)
  | closed hnegotiation hclosing => exact .inr (hnegotiation.onScript_closing hclosing _)

/-! ## Steps and the closing message -/

theorem Selection.steps {answer : Except AuthError (InitiatorCredential κ)}
    (hselection : client.Selection challenge events answer) :
    events.filterMap ProviderEvent.step? = [] := by
  cases hselection with
  | own | resolved => rfl

theorem Negotiation.steps (hnegotiation : client.Negotiation challenge answered events complete) :
    (events.filterMap ProviderEvent.step?).map Prod.fst = none :: tokens answered := by
  induction hnegotiation with
  | opened _ hopening =>
      obtain ⟨earlier, credential, hselection, rfl⟩ := hopening.exists_step
      rw [List.filterMap_append, hselection.steps]
      rfl
  | stepped _ token output ih =>
      rw [List.filterMap_append, List.map_append, ih, tokens_append]
      rfl

theorem Closing.steps {message : Bytes} {answer : Except AuthError Bytes}
    (hclosing : Closing message events answer) : events.filterMap ProviderEvent.step? = [] := by
  cases hclosing with
  | unestablished | unverified | verified => rfl

/-- The context is stepped once for the opening and once for each accepted token. -/
theorem Dialogue.steps (hdialogue : client.Dialogue answered events exchange) :
    (events.filterMap ProviderEvent.step?).map Prod.fst = [] ∧ tokens answered = [] ∨
      (events.filterMap ProviderEvent.step?).map Prod.fst = none :: tokens answered := by
  cases hdialogue with
  | fresh | unbegun | fellBack => exact .inl ⟨rfl, rfl⟩
  | unopened _ hopening =>
      cases hopening with
      | unselected hselection => exact .inl ⟨congrArg _ hselection.steps, rfl⟩
      | uninitiated hselection =>
          rw [List.filterMap_append, hselection.steps]
          exact .inl ⟨rfl, rfl⟩
      | stepped hselection =>
          rw [List.filterMap_append, hselection.steps]
          exact .inr rfl
  | underway hnegotiation => exact .inr hnegotiation.steps
  | unstepped hnegotiation =>
      rw [List.filterMap_append, List.map_append, hnegotiation.steps, tokens_append]
      exact .inr rfl
  | unclosed hnegotiation hclosing | closed hnegotiation hclosing =>
      rw [List.filterMap_append, hclosing.steps, List.append_nil, hnegotiation.steps,
        tokens_append]
      exact .inr (List.append_nil _).symm

theorem unwrap_not_mem_negotiationScript (client : Client ω ν κ χ) (challenge : Challenge)
    (credential : InitiatorCredential κ) (tokens : List (Option Bytes)) (message : Bytes) :
    ProviderCall.unwrap message ∉ client.negotiationScript challenge credential tokens := by
  rw [negotiationScript, selectionScript]
  split <;> simp

theorem unwrap_not_mem {message : Bytes} {answer : Except AuthError Bytes}
    {script : List (ProviderCall κ)} (hscript : events.filterMap ProviderEvent.call? <+: script)
    (hmessage : .unwrap message ∉ script) : ProviderEvent.unwrap message answer ∉ events := by
  intro hmem
  exact hmessage (hscript.subset (List.mem_filterMap.mpr ⟨_, hmem, rfl⟩))

theorem Negotiation.unwrap_not_mem
    (hnegotiation : client.Negotiation challenge answered events complete) (message : Bytes)
    (answer : Except AuthError Bytes) : ProviderEvent.unwrap message answer ∉ events := by
  obtain ⟨credential, hcalls⟩ := hnegotiation.calls
  have hprefix : events.filterMap ProviderEvent.call? <+:
      client.negotiationScript challenge credential (tokens answered) :=
    hcalls ▸ List.prefix_rfl
  exact Client.unwrap_not_mem hprefix (client.unwrap_not_mem_negotiationScript _ _ _ _)

theorem Closing.eq_of_mem {message message' : Bytes} {answer answer' : Except AuthError Bytes}
    (hclosing : Closing message events answer) (hmem : .unwrap message' answer' ∈ events) :
    message' = message := by
  have hcall : .unwrap message' ∈ events.filterMap ProviderEvent.call? :=
    List.mem_filterMap.mpr ⟨_, hmem, rfl⟩
  have hscript := hclosing.calls_prefix.subset hcall
  simpa using hscript

/-- What is unwrapped is the message that an accepted call has brought. -/
theorem Dialogue.messages_eq (hdialogue : client.Dialogue answered events exchange)
    {message : Bytes} {answer : Except AuthError Bytes}
    (hmem : ProviderEvent.unwrap message answer ∈ events) : messages answered = [message] := by
  cases hdialogue with
  | fresh | unbegun | fellBack => cases hmem
  | unopened _ hopening =>
      obtain ⟨credential, hprefix⟩ := hopening.calls_prefix
      exact absurd hmem
        (unwrap_not_mem hprefix (client.unwrap_not_mem_negotiationScript _ _ _ _))
  | underway hnegotiation => exact absurd hmem (hnegotiation.unwrap_not_mem _ _)
  | unstepped hnegotiation =>
      rcases List.mem_append.mp hmem with hmem | hmem
      · exact absurd hmem (hnegotiation.unwrap_not_mem _ _)
      · cases List.mem_singleton.mp hmem
  | unclosed hnegotiation hclosing | closed hnegotiation hclosing =>
      rcases List.mem_append.mp hmem with hmem | hmem
      · exact absurd hmem (hnegotiation.unwrap_not_mem _ _)
      · rw [messages_append, hnegotiation.messages_eq, hclosing.eq_of_mem hmem]
        rfl

/-! ## Each event in its place -/

theorem Selection.orderly {answer : Except AuthError (InitiatorCredential κ)}
    (hselection : client.Selection challenge events answer) : ProviderEvent.Orderly events := by
  cases hselection with
  | own => exact .nil
  | resolved =>
      exact .snoc .nil (ProviderEvent.unfailing_nil.permitted rfl fun _ _ => nofun)

theorem Selection.unfailing {credential : InitiatorCredential κ}
    (hselection : client.Selection challenge events (.ok credential)) :
    ProviderEvent.Unfailing events := by
  generalize hanswer : Except.ok credential = answer at hselection
  cases hselection with
  | own => exact ProviderEvent.unfailing_nil
  | resolved _ answer =>
      cases answer with
      | error error => cases hanswer
      | ok resolved =>
          intro event hevent
          rw [List.mem_singleton.mp hevent]
          rfl

theorem Selection.lastStep? {answer : Except AuthError (InitiatorCredential κ)}
    (hselection : client.Selection challenge events answer) :
    ProviderEvent.lastStep? events = none := by
  rw [ProviderEvent.lastStep?, hselection.steps]
  rfl

theorem Selection.orderly_initiate {credential : InitiatorCredential κ}
    (hselection : client.Selection challenge events (.ok credential))
    (answer : Except AuthError Unit) :
    ProviderEvent.Orderly (events ++ [.initiate challenge.servicePrincipal credential
      Requirements.handshake answer]) :=
  hselection.orderly.snoc (hselection.unfailing.permitted rfl fun _ _ => nofun)

theorem Selection.unfailing_initiate {credential : InitiatorCredential κ}
    (hselection : client.Selection challenge events (.ok credential)) :
    ProviderEvent.Unfailing (events ++ [.initiate challenge.servicePrincipal credential
      Requirements.handshake (.ok ())]) :=
  hselection.unfailing.snoc rfl

theorem Opening.orderly {answer : Except AuthError StepOutput}
    (hopening : client.Opening challenge events answer) : ProviderEvent.Orderly events := by
  cases hopening with
  | unselected hselection => exact hselection.orderly
  | uninitiated hselection => exact hselection.orderly_initiate _
  | stepped hselection =>
      rw [List.append_cons]
      refine (hselection.orderly_initiate _).snoc
        (hselection.unfailing_initiate.permitted_step ?_ _ _)
      rw [ProviderEvent.lastStep?_snoc _ rfl, hselection.lastStep?]
      exact nofun

theorem Opening.unfailing {output : StepOutput}
    (hopening : client.Opening challenge events (.ok output)) :
    ProviderEvent.Unfailing events := by
  obtain ⟨earlier, credential, hselection, rfl⟩ := hopening.exists_step
  rw [List.append_cons]
  exact hselection.unfailing_initiate.snoc rfl

theorem Negotiation.unfailing
    (hnegotiation : client.Negotiation challenge answered events complete) :
    ProviderEvent.Unfailing events := by
  induction hnegotiation with
  | opened _ hopening => exact hopening.unfailing
  | stepped _ _ _ ih => exact ih.snoc rfl

theorem Negotiation.orderly_step
    (hnegotiation : client.Negotiation challenge answered events false)
    (horderly : ProviderEvent.Orderly events) (token : Option Bytes)
    (answer : Except AuthError StepOutput) :
    ProviderEvent.Orderly (events ++ [.step token answer]) := by
  refine horderly.snoc (hnegotiation.unfailing.permitted_step ?_ token answer)
  intro last hlast
  obtain ⟨input, output, hstep, hcomplete⟩ := hnegotiation.lastStep?
  rw [hstep] at hlast
  cases hlast
  exact ⟨output, rfl, hcomplete⟩

theorem Negotiation.orderly
    (hnegotiation : client.Negotiation challenge answered events complete) :
    ProviderEvent.Orderly events := by
  induction hnegotiation with
  | opened _ hopening => exact hopening.orderly
  | stepped hnegotiation token output ih => exact hnegotiation.orderly_step ih token (.ok output)

theorem Negotiation.orderly_closing
    (hnegotiation : client.Negotiation challenge answered events true) {message : Bytes}
    {later : List (ProviderEvent κ)} {answer : Except AuthError Bytes}
    (hclosing : Closing message later answer) : ProviderEvent.Orderly (events ++ later) := by
  have hunfailing := hnegotiation.unfailing
  have hasked : ∀ complete, ProviderEvent.Orderly (events ++ [.asked complete]) := fun _ =>
    hnegotiation.orderly.snoc (hunfailing.permitted rfl fun _ _ => nofun)
  have hunwrap : ∀ answer, ProviderEvent.Orderly
      (events ++ [.asked true] ++ [.unwrap message answer]) := by
    intro answer
    refine (hasked true).snoc ⟨hunfailing.snoc rfl, fun _ _ => nofun, fun _ _ _ => ?_⟩
    -- The question comes between the last step and the message, and is no step.
    obtain ⟨input, output, hstep, hcomplete⟩ := hnegotiation.lastStep?
    rw [ProviderEvent.lastStep?_snoc _ rfl]
    exact ⟨⟨input, output, hstep, hcomplete⟩, List.getLast?_concat⟩
  cases hclosing with
  | unestablished => exact hasked false
  | unverified error =>
      rw [List.append_cons]
      exact hunwrap _
  | verified plain answer =>
      rw [List.append_cons, List.append_cons]
      exact (hunwrap _).snoc
        (((hunfailing.snoc rfl).snoc rfl).permitted rfl fun _ _ => nofun)

/-- Each event of a dialogue may follow those before it. -/
theorem Dialogue.orderly (hdialogue : client.Dialogue answered events exchange) :
    ProviderEvent.Orderly events := by
  cases hdialogue with
  | fresh | unbegun | fellBack => exact .nil
  | unopened _ hopening => exact hopening.orderly
  | underway hnegotiation => exact hnegotiation.orderly
  | unstepped hnegotiation token error =>
      exact hnegotiation.orderly_step hnegotiation.orderly token (.error error)
  | unclosed hnegotiation hclosing | closed hnegotiation hclosing =>
      exact hnegotiation.orderly_closing hclosing

/-! ## Calls without effect on the provider -/

theorem written_of_unbegun {calls : List Call} {shared : ω} {visit : Visit (Written κ ω) ν χ}
    (hvisit : visit ∈ client.watched.history calls (fresh shared)) {initial : Option Bytes}
    (hcall : visit.call = .begin initial)
    (hpacket : ∀ challenge, Challenge.decodeOptional initial ≠ .ok (some challenge)) :
    written visit.outcome.state = written visit.before := by
  by_cases hstate : visit.before.1.state = visit.call.operation.requiredState
  · obtain ⟨events, heffect, hwritten, _⟩ := exists_settled hvisit hstate
    rw [hcall] at heffect
    -- Without a challenge only those answers are left that ask nothing of the provider.
    have hevents : events = [] := by
      generalize visit.outcome.result = answer at heffect
      generalize visit.outcome.state.1 = reached at heffect
      cases heffect with
      | unreadable | withoutPassword | fellBack => rfl
      | unopened hchallenge => exact absurd hchallenge (hpacket _)
      | opened hchallenge => exact absurd hchallenge (hpacket _)
    rw [hwritten, hevents, List.append_nil]
  · rw [client.watched.outcome_of_mem_history hvisit hstate]

/-- What has reached a provider follows from the accepted calls. -/
structure FollowsScript (client : Client ω ν κ χ) (answered : List Exchanged)
    (events : List (ProviderEvent κ)) : Prop where
  calls : events.filterMap ProviderEvent.call? = [] ∨
    client.OnScript answered (events.filterMap ProviderEvent.call?)
  steps : (events.filterMap ProviderEvent.step?).map Prod.fst = [] ∧ tokens answered = [] ∨
    (events.filterMap ProviderEvent.step?).map Prod.fst = none :: tokens answered
  unwrapped : ∀ message answer, .unwrap message answer ∈ events → messages answered = [message]
  permitted : ∀ before event after, events = before ++ event :: after →
    ProviderEvent.Permitted before event

/-- The calls that reach the provider during a run are the beginning of the script
for the accepted calls, and each is made only where it may follow those before it.
Nothing reaches the provider from a call that is refused, from any call once the
exchange is over, and from a first packet that is no challenge. -/
theorem calls_follow_script (client : Client ω ν κ χ) (calls : List Call) (shared : ω) :
    (client.watched.history calls (fresh shared)).map (fun visit => unwatched visit.outcome) =
        client.run calls ({}, shared) ∧
      client.FollowsScript (client.watched.answered calls (fresh shared))
        (written (client.watched.reached calls (fresh shared))) ∧
      (∀ visit ∈ client.watched.history calls (fresh shared),
        visit.before.1.state ≠ visit.call.operation.requiredState →
          visit.outcome.state = visit.before) ∧
      (∀ visit ∈ client.watched.history calls (fresh shared),
        visit.before.1.state.Over → visit.outcome.state = visit.before) ∧
      ∀ visit ∈ client.watched.history calls (fresh shared), ∀ initial,
        visit.call = .begin initial →
          (∀ challenge, Challenge.decodeOptional initial ≠ .ok (some challenge)) →
            written visit.outcome.state = written visit.before := by
  have hrefused : ∀ visit ∈ client.watched.history calls (fresh shared),
      visit.before.1.state ≠ visit.call.operation.requiredState →
        visit.outcome.state = visit.before := by
    intro visit hvisit hstate
    rw [client.watched.outcome_of_mem_history hvisit hstate]
  have hdialogue := client.dialogue calls shared
  refine ⟨client.map_unwatched_history calls {} [] shared, ?_, hrefused, ?_,
    fun _ hvisit _ => written_of_unbegun hvisit⟩
  · exact ⟨hdialogue.calls, hdialogue.steps, fun _ _ => hdialogue.messages_eq,
      hdialogue.orderly.permitted⟩
  · intro visit hvisit hover
    exact hrefused visit hvisit (hover.ne_requiredState _)

end Client

end KerberosLogin
