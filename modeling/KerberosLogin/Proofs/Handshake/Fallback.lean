import KerberosLogin.Proofs.Challenge.Nameless
import KerberosLogin.Proofs.Handshake.Dialogue

/-! # Sending the password

The password is sent by one call only, the first one that is allowed, and only if the
server has named no service principal. A packet that cannot be read does not count as
naming none. The one warning of an exchange tells of it.
-/

namespace KerberosLogin

variable {ω ν κ χ α : Type}

/-- The record of a warning of the exchange itself. -/
def HandshakeNote.warning? (entry : HandshakeNote ν) : Option LogRecord :=
  entry.ownRecord?.filter fun record => record.level = .warn

/-- The warning that the password will be sent. -/
def fallbackWarning : LogRecord :=
  ⟨.warn, "no service principal from server; falling back to clear-text password, "
      ++ "which requires TLS",
    [("plugin", .text "mysql_clear_password")]⟩

namespace Client

/-- The error of a client that has no password to send. -/
def noPassword : AuthError :=
  ⟨.credentialsUnavailable,
    "server sent no service principal and no password is available for fallback"⟩

/-! ## Calls that warn of nothing -/

section Silence

open HandshakeNote (warning?)

theorem onContext_silent (action : Action (χ × ω) ν α) : (onContext action).Silent warning? := by
  intro state
  rcases state with ⟨⟨position, challenge, context⟩, shared⟩
  cases context with
  | none => rfl
  | some context =>
      simp only [onContext, List.filterMap_map]
      exact List.filterMap_eq_nil_iff.mpr fun _ _ => rfl

theorem record_silent (output : StepOutput) :
    (record output : Act ω ν χ HandshakeOutcome).Silent warning? := by
  rcases output with ⟨token, complete⟩
  apply Action.Silent.bind (.modify _)
  intro _
  apply Action.Silent.note_bind rfl
  cases token with
  | none => exact .pure _
  | some token => exact .note_bind rfl (.pure _)

theorem perform_silent {body : Act ω ν χ α} (hbody : body.Silent warning?)
    (operation : Operation) : (perform operation body).Silent warning? := by
  intro state
  rcases state with ⟨exchange, shared⟩
  by_cases hstate : exchange.state = operation.requiredState
  · have hnotes := hbody ({ exchange with state := operation.workingState }, shared)
    rcases hrun : body.run ({ exchange with state := operation.workingState }, shared) with
      ⟨error | value, ⟨reached, shared'⟩, notes⟩
    · rw [hrun] at hnotes
      rw [run_perform_error hstate hrun, List.filterMap_append, hnotes]
      rfl
    · rw [hrun] at hnotes
      rw [run_perform_ok hstate hrun, hnotes]
  · rw [run_perform_refused hstate]
    rfl

variable (client : Client ω ν κ χ)

theorem initiatorCredential_silent (challenge : Challenge) :
    (client.initiatorCredential challenge).Silent warning? := by
  unfold initiatorCredential
  split
  · cases client.explicitIdentity? challenge with
    | none => exact .note_bind rfl (.pure _)
    | some identity => exact .note_bind rfl (.pure _)
  · apply Action.Silent.bind (.mapNotes (fun _ => rfl) _)
    intro resolved
    exact .note_bind rfl (.pure _)

theorem openContext_silent (challenge : Challenge) :
    (client.openContext challenge).Silent warning? := by
  apply Action.Silent.note_bind rfl
  apply Action.Silent.bind (client.initiatorCredential_silent challenge)
  intro credential
  apply Action.Silent.bind (.mapNotes (fun _ => rfl) _)
  intro context
  exact .mapNotes (fun _ => rfl) _

theorem answerFirst_silent {initial : Option Bytes}
    (hkept : Challenge.decodeOptional initial = .ok none → client.credentials.password = none) :
    (client.answerFirst initial).Silent warning? := by
  unfold answerFirst
  rcases hpacket : Challenge.decodeOptional initial with fault | _ | challenge
  · exact .fail _
  · rw [Except.mapError, Action.ofExcept_ok_bind]
    simp only [fallBack, hkept hpacket]
    exact .fail _
  · rw [Except.mapError, Action.ofExcept_ok_bind]
    apply Action.Silent.bind (client.openContext_silent challenge).onSecond
    intro opened
    apply Action.Silent.bind (.modify _)
    intro _
    exact (record_silent _).map _

theorem answerToken_silent (token : Option Bytes) :
    (client.answerToken token).Silent warning? := by
  exact .bind (onContext_silent _) record_silent

theorem answerClosing_silent (message : Bytes) :
    (client.answerClosing message).Silent warning? := by
  apply Action.Silent.bind (onContext_silent _)
  intro complete
  split
  · apply Action.Silent.bind (onContext_silent _)
    intro unwrapped
    apply Action.Silent.note_bind rfl
    apply Action.Silent.note_bind rfl
    apply Action.Silent.bind (onContext_silent _)
    intro wrapped
    apply Action.Silent.note_bind rfl
    exact .bind (.modify _) fun _ => .pure _
  · exact .fail _

theorem call_silent {call : Call}
    (hkept : ∀ initial, call = .begin initial → Challenge.decodeOptional initial = .ok none →
      client.credentials.password = none) : (client.call call).Silent warning? := by
  rw [call_eq_perform]
  apply perform_silent
  cases call with
  | begin initial => exact (client.answerFirst_silent (hkept initial rfl)).map _
  | proceed token => exact (client.answerToken_silent token).map _
  | close message => exact (client.answerClosing_silent message).map _

end Silence

/-! ## First packets without a challenge -/

section First

variable {client : Client ω ν κ χ} {initial : Option Bytes}

theorem outcome_of_failed_begin {error : AuthError} (shared : ω)
    (hfirst : client.answerFirst initial = Action.fail error) :
    (client.visit (.begin initial) ({}, shared)).outcome =
      ⟨.error error, (⟨.failed, none, none⟩, shared), [.failed error .awaitingChallenge]⟩ := by
  have hbody : (client.body (.begin initial)).run (⟨.awaitingChallenge, none, none⟩, shared) =
      ⟨.error error, (⟨.awaitingChallenge, none, none⟩, shared), []⟩ := by
    rw [body, hfirst]
    rfl
  have hstate : ({} : Exchange χ).state = Operation.begin.requiredState := rfl
  rw [visit, call_eq_perform]
  exact run_perform_error hstate hbody

theorem outcome_of_unreadable {fault : Challenge.Fault} (shared : ω)
    (hpacket : Challenge.decodeOptional initial = .error fault) :
    (client.visit (.begin initial) ({}, shared)).outcome =
      ⟨.error ⟨.malformedPacket, fault.diagnostic⟩, (⟨.failed, none, none⟩, shared),
        [.failed ⟨.malformedPacket, fault.diagnostic⟩ .awaitingChallenge]⟩ := by
  apply outcome_of_failed_begin
  rw [answerFirst, hpacket]
  rfl

theorem outcome_of_withoutPassword (shared : ω)
    (hpacket : Challenge.decodeOptional initial = .ok none)
    (hpassword : client.credentials.password = none) :
    (client.visit (.begin initial) ({}, shared)).outcome =
      ⟨.error noPassword, (⟨.failed, none, none⟩, shared),
        [.failed noPassword .awaitingChallenge]⟩ := by
  apply outcome_of_failed_begin
  rw [answerFirst, hpacket, fallBack, hpassword]
  rfl

theorem run_call_of_fallBack {password : Password} {exchange : Exchange χ} (shared : ω)
    (hstate : exchange.state = .start) (hpacket : Challenge.decodeOptional initial = .ok none)
    (hpassword : client.credentials.password = some password) :
    (client.call (.begin initial)).run (exchange, shared) =
      ⟨.ok (.initial (.passwordFallback (ClearPassword.payload password))),
        ({ exchange with state := .closed }, shared),
        [.passwordFallback, .clearPassword (ClearPassword.payload password).length]⟩ := by
  have hbody : (client.body (.begin initial)).run
      ({ exchange with state := .awaitingChallenge }, shared) =
        ⟨.ok (.initial (.passwordFallback (ClearPassword.payload password))),
          ({ exchange with state := .closed }, shared),
          [.passwordFallback, .clearPassword (ClearPassword.payload password).length]⟩ := by
    rw [body, answerFirst, hpacket, fallBack, hpassword]
    rfl
  rw [call_eq_perform]
  exact run_perform_ok hstate hbody

theorem outcome_of_fallBack {password : Password} (shared : ω)
    (hpacket : Challenge.decodeOptional initial = .ok none)
    (hpassword : client.credentials.password = some password) :
    (client.visit (.begin initial) ({}, shared)).outcome =
      ⟨.ok (.initial (.passwordFallback (ClearPassword.payload password))),
        (⟨.closed, none, none⟩, shared),
        [.passwordFallback, .clearPassword (ClearPassword.payload password).length]⟩ :=
  run_call_of_fallBack shared rfl hpacket hpassword

end First

/-! ## One call -/

/-- Whether a call was answered with the password. -/
def Visit.FellBack (visit : Visit ω ν χ) : Prop :=
  ∃ payload, visit.outcome.result = .ok (.initial (.passwordFallback payload))

/-- A call that has the password sent. Nothing was done before it. -/
structure SentPassword (client : Client ω ν κ χ) (visit : Visit (Written κ ω) ν χ)
    (password : Password) : Prop where
  call : ∃ initial, visit.call = .begin initial ∧ Challenge.Nameless initial
  available : client.credentials.password = some password
  before : ∃ shared, visit.before = fresh shared
  outcome : visit.outcome =
    ⟨.ok (.initial (.passwordFallback (Utf8.encode password.expose ++ [0]))),
      (⟨.closed, none, none⟩, visit.before.2),
      [.passwordFallback, .clearPassword (Utf8.encode password.expose ++ [0]).length]⟩

variable {client : Client ω ν κ χ} {calls : List Call} {shared : ω}
  {visit : Visit (Written κ ω) ν χ}

/-- The first call that is allowed is made before anything has reached the provider. -/
theorem exists_fresh (hvisit : visit ∈ client.watched.history calls (fresh shared))
    (hstate : visit.before.1.state = .start) :
    ∃ shared', visit = client.watched.visit visit.call (fresh shared') := by
  obtain ⟨earlier, call, later, rfl, rfl⟩ := client.watched.exists_of_mem_history hvisit
  obtain ⟨_, hwritten, hfresh⟩ := (client.dialogue earlier shared).of_start hstate
  refine ⟨(client.watched.reached earlier (fresh shared)).2.2, ?_⟩
  have hreached : client.watched.reached earlier (fresh shared) =
      fresh (client.watched.reached earlier (fresh shared)).2.2 :=
    Prod.ext hfresh (Prod.ext hwritten rfl)
  exact congrArg (client.watched.visit call) hreached

theorem SentPassword.fellBack {password : Password} (hsent : client.SentPassword visit password) :
    visit.FellBack := by
  rw [Visit.FellBack, hsent.outcome]
  exact ⟨_, rfl⟩

theorem SentPassword.warnings {password : Password} (hsent : client.SentPassword visit password) :
    visit.outcome.notes.filterMap HandshakeNote.warning? = [fallbackWarning] := by
  rw [hsent.outcome]
  rfl

theorem sentPassword_of_nameless (hvisit : visit ∈ client.watched.history calls (fresh shared))
    (hstate : visit.before.1.state = .start) {initial : Option Bytes}
    (hcall : visit.call = .begin initial) (hnameless : Challenge.Nameless initial)
    {password : Password} (hpassword : client.credentials.password = some password) :
    client.SentPassword visit password := by
  obtain ⟨shared', hfresh⟩ := exists_fresh hvisit hstate
  have hpacket := Challenge.decodeOptional_eq_none_iff.mpr hnameless
  rw [hcall] at hfresh
  subst hfresh
  exact ⟨⟨initial, rfl, hnameless⟩, hpassword, ⟨shared', rfl⟩,
    outcome_of_fallBack ([], shared') hpacket hpassword⟩

theorem not_fellBack_of_effect {exchange reached : Exchange χ} {call : Call}
    {events : List (ProviderEvent κ)} {answer : Except AuthError Answer}
    (heffect : client.Effect exchange call events answer reached)
    (hkept : ∀ initial, call = .begin initial → Challenge.decodeOptional initial = .ok none →
      client.credentials.password = none) (payload : Bytes) :
    answer ≠ .ok (.initial (.passwordFallback payload)) := by
  cases heffect with
  | fellBack hpacket hpassword => exact absurd (hkept _ rfl hpacket) (hpassword ▸ nofun)
  | _ => exact nofun

/-- A call has the password sent, or it sends none and warns of nothing. -/
theorem sentPassword_or_silent (hvisit : visit ∈ client.watched.history calls (fresh shared)) :
    (∃ password, client.SentPassword visit password) ∨
      ¬ visit.FellBack ∧ visit.outcome.notes.filterMap HandshakeNote.warning? = [] := by
  by_cases hstate : visit.before.1.state = visit.call.operation.requiredState
  · by_cases hkept : ∀ initial, visit.call = .begin initial →
        Challenge.decodeOptional initial = .ok none → client.credentials.password = none
    · right
      obtain ⟨events, hsettled⟩ := exists_settled hvisit hstate
      constructor
      · intro hfellBack
        obtain ⟨payload, hresult⟩ := hfellBack
        exact not_fellBack_of_effect hsettled.effect hkept payload hresult
      · obtain ⟨earlier, call, later, rfl, rfl⟩ := client.watched.exists_of_mem_history hvisit
        exact client.watched.call_silent hkept _
    · left
      push Not at hkept
      obtain ⟨initial, hcall, hpacket, hpassword⟩ := hkept
      obtain ⟨password, hpassword⟩ := Option.ne_none_iff_exists'.mp hpassword
      rw [hcall] at hstate
      have hnameless := Challenge.decodeOptional_eq_none_iff.mp hpacket
      exact ⟨password, sentPassword_of_nameless hvisit hstate hcall hnameless hpassword⟩
  · right
    rw [Visit.FellBack, client.watched.outcome_of_mem_history hvisit hstate]
    exact ⟨nofun, rfl⟩

/-- The password is sent exactly by a first call that is given no service principal. -/
theorem fellBack_iff (hvisit : visit ∈ client.watched.history calls (fresh shared)) :
    visit.FellBack ↔ visit.before.1.state = .start ∧
      (∃ initial, visit.call = .begin initial ∧ Challenge.Nameless initial) ∧
      ∃ password, client.credentials.password = some password := by
  constructor
  · intro hfellBack
    rcases sentPassword_or_silent hvisit with ⟨password, hsent⟩ | ⟨hnot, _⟩
    · obtain ⟨shared', hbefore⟩ := hsent.before
      refine ⟨?_, hsent.call, password, hsent.available⟩
      rw [hbefore]
      rfl
    · exact absurd hfellBack hnot
  · rintro ⟨hstate, ⟨initial, hcall, hnameless⟩, password, hpassword⟩
    exact (sentPassword_of_nameless hvisit hstate hcall hnameless hpassword).fellBack

theorem failed_without_password (hvisit : visit ∈ client.watched.history calls (fresh shared))
    (hstate : visit.before.1.state = .start) {initial : Option Bytes}
    (hcall : visit.call = .begin initial) (hnameless : Challenge.Nameless initial)
    (hpassword : client.credentials.password = none) :
    visit.outcome = ⟨.error noPassword, (⟨.failed, none, none⟩, visit.before.2),
      [.failed noPassword .awaitingChallenge]⟩ := by
  obtain ⟨shared', hfresh⟩ := exists_fresh hvisit hstate
  rw [hcall] at hfresh
  subst hfresh
  have hpacket := Challenge.decodeOptional_eq_none_iff.mpr hnameless
  exact outcome_of_withoutPassword ([], shared') hpacket hpassword

theorem failed_unreadable (hvisit : visit ∈ client.watched.history calls (fresh shared))
    (hstate : visit.before.1.state = .start) {packet : Bytes} {fault : Challenge.Fault}
    (hcall : visit.call = .begin (some packet)) (hpacket : packet ≠ [])
    (hdecode : Challenge.decode packet = .error fault) :
    visit.outcome = ⟨.error ⟨.malformedPacket, fault.diagnostic⟩,
      (⟨.failed, none, none⟩, visit.before.2),
      [.failed ⟨.malformedPacket, fault.diagnostic⟩ .awaitingChallenge]⟩ := by
  obtain ⟨shared', hfresh⟩ := exists_fresh hvisit hstate
  rw [hcall] at hfresh
  subst hfresh
  have hread := Challenge.decodeOptional_eq_error_iff.mpr ⟨packet, rfl, hpacket, hdecode⟩
  exact outcome_of_unreadable ([], shared') hread

/-! ## A whole run -/

/-- What a run has warned of. -/
def warnings (visits : List (Visit ω ν χ)) : List LogRecord :=
  visits.flatMap fun visit => visit.outcome.notes.filterMap HandshakeNote.warning?

theorem warnings_snoc (visits : List (Visit ω ν χ)) (last : Visit ω ν χ) :
    warnings (visits ++ [last]) =
      warnings visits ++ last.outcome.notes.filterMap HandshakeNote.warning? := by
  simp [warnings]

/-- A run sends the password once, warns of it once, and asks nothing of the provider; or it
sends none and warns of nothing. -/
theorem run_fellBack_or_silent (client : Client ω ν κ χ) (calls : List Call) (shared : ω) :
    ((∃ visit ∈ client.watched.history calls (fresh shared), visit.FellBack) ∧
      warnings (client.watched.history calls (fresh shared)) = [fallbackWarning] ∧
      (client.watched.reached calls (fresh shared)).1.state = .closed ∧
      written (client.watched.reached calls (fresh shared)) = []) ∨
    ((∀ visit ∈ client.watched.history calls (fresh shared), ¬ visit.FellBack) ∧
      warnings (client.watched.history calls (fresh shared)) = []) := by
  induction calls using List.reverseRecOn with
  | nil => exact .inr ⟨fun _ hmem => absurd hmem List.not_mem_nil, rfl⟩
  | append_singleton calls call ih =>
      have hlast : client.watched.visit call (client.watched.reached calls (fresh shared)) ∈
          client.watched.history (calls ++ [call]) (fresh shared) := by
        rw [history_snoc]
        exact List.mem_concat_self
      rw [history_snoc, reached_snoc, warnings_snoc]
      rcases ih with ⟨⟨visit, hvisit, hfellBack⟩, hwarned, hclosed, hwritten⟩ | ⟨hnone, hsilent⟩
      · -- The exchange is over, so the last call is refused.
        have hrefused : (client.watched.reached calls (fresh shared)).1.state ≠
            call.operation.requiredState := by
          rw [hclosed]
          cases call <;> exact nofun
        have houtcome := client.watched.outcome_of_refused hrefused
        rw [houtcome]
        refine .inl ⟨⟨visit, List.mem_append_left _ hvisit, hfellBack⟩, ?_, hclosed, hwritten⟩
        rw [hwarned]
        rfl
      rcases sentPassword_or_silent hlast with ⟨password, hsent⟩ | ⟨hlastNot, hlastSilent⟩
      · obtain ⟨shared', hbefore⟩ := hsent.before
        refine .inl ⟨⟨_, List.mem_concat_self, hsent.fellBack⟩,
          ?_, ?_, ?_⟩
        · rw [hsilent, hsent.warnings]
          rfl
        · rw [hsent.outcome]
        · rw [hsent.outcome, hbefore]
          rfl
      · refine .inr ⟨?_, ?_⟩
        · intro visit hvisit
          rcases List.mem_append.mp hvisit with hvisit | hvisit
          · exact hnone visit hvisit
          · rw [List.mem_singleton.mp hvisit]
            exact hlastNot
        · rw [hsilent, hlastSilent]
          rfl

/-- The password is sent exactly by the first call that is allowed, for a packet that names
no service principal, if there is one; nothing else is ever done in such a run, and no other
run warns of anything. Where it cannot be sent, or the packet cannot be read, the exchange
fails before anything has reached the provider. -/
theorem password_sent_iff_nameless (client : Client ω ν κ χ) (calls : List Call) (shared : ω) :
    (client.watched.history calls (fresh shared)).map (fun visit => unwatched visit.outcome) =
        client.run calls ({}, shared) ∧
      (∀ visit ∈ client.watched.history calls (fresh shared), visit.FellBack ↔
        visit.before.1.state = .start ∧
          (∃ initial, visit.call = .begin initial ∧ Challenge.Nameless initial) ∧
          ∃ password, client.credentials.password = some password) ∧
      (∀ visit ∈ client.watched.history calls (fresh shared), visit.FellBack →
        ∃ password, client.SentPassword visit password) ∧
      ((∃ visit ∈ client.watched.history calls (fresh shared), visit.FellBack) →
        warnings (client.watched.history calls (fresh shared)) = [fallbackWarning] ∧
          written (client.watched.reached calls (fresh shared)) = []) ∧
      ((∀ visit ∈ client.watched.history calls (fresh shared), ¬ visit.FellBack) →
        warnings (client.watched.history calls (fresh shared)) = []) ∧
      (∀ visit ∈ client.watched.history calls (fresh shared), ∀ initial,
        visit.before.1.state = .start → visit.call = .begin initial →
          Challenge.Nameless initial → client.credentials.password = none →
            visit.outcome = ⟨.error noPassword, (⟨.failed, none, none⟩, visit.before.2),
              [.failed noPassword .awaitingChallenge]⟩) ∧
      (∀ visit ∈ client.watched.history calls (fresh shared), ∀ packet fault,
        visit.before.1.state = .start → visit.call = .begin (some packet) → packet ≠ [] →
          Challenge.decode packet = .error fault →
            visit.outcome = ⟨.error ⟨.malformedPacket, fault.diagnostic⟩,
              (⟨.failed, none, none⟩, visit.before.2),
              [.failed ⟨.malformedPacket, fault.diagnostic⟩ .awaitingChallenge]⟩) ∧
      (∀ packet realm, Challenge.decode packet = .ok ⟨"", realm⟩ ↔ realm.utf8ByteSize ≤ 65535 ∧
        packet = 0 :: 0 :: (Challenge.lengthBytes realm.utf8ByteSize ++ Utf8.encode realm)) ∧
      ∀ rest fault, Challenge.decode (0 :: 0 :: rest) = .error fault ↔
        Challenge.RealmFault rest fault := by
  have hrun := client.run_fellBack_or_silent calls shared
  refine ⟨client.map_unwatched_history calls {} [] shared, fun _ => fellBack_iff, ?_, ?_, ?_,
    fun _ hvisit _ hstate hcall => failed_without_password hvisit hstate hcall,
    fun _ hvisit _ _ hstate hcall => failed_unreadable hvisit hstate hcall,
    fun _ _ => Challenge.decode_unnamed_iff, fun _ _ => Challenge.decode_zero_zero_eq_error_iff⟩
  · intro visit hvisit hfellBack
    rcases sentPassword_or_silent hvisit with hsent | ⟨hnot, _⟩
    · exact hsent
    · exact absurd hfellBack hnot
  · intro hsome
    rcases hrun with ⟨_, hwarned, _, hwritten⟩ | ⟨hnone, _⟩
    · exact ⟨hwarned, hwritten⟩
    · obtain ⟨visit, hvisit, hfellBack⟩ := hsome
      exact absurd hfellBack (hnone visit hvisit)
  · intro hnone
    rcases hrun with ⟨⟨visit, hvisit, hfellBack⟩, _⟩ | ⟨_, hsilent⟩
    · exact absurd hfellBack (hnone visit hvisit)
    · exact hsilent

end Client

end KerberosLogin
