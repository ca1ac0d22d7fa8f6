import KerberosLogin.Proofs.Negotiate.Trace
import Mathlib.Algebra.Group.Nat.Defs

/-! # The numbers of messages

A context counts the messages that it has protected and those that it has verified, each
modulo the width of a number. A failure is not counted, whatever fails, and neither count
depends on the other or on the steps of the negotiation.
-/

namespace KerberosLogin

open SecurityContext (Turn)

variable {ω ν χ υ η ψ : Type}

/-- How many messages were protected. -/
def SecurityContext.countWrapped (turns : List (Turn ω ν χ)) : Nat :=
  turns.countP fun turn => turn.call.wrapped turn.outcome.result

/-- How many messages were verified. -/
def SecurityContext.countUnwrapped (turns : List (Turn ω ν χ)) : Nat :=
  turns.countP fun turn => turn.call.unwrapped turn.outcome.result

theorem SecurityContext.countWrapped_cons (turn : Turn ω ν χ) (turns : List (Turn ω ν χ)) :
    countWrapped (turn :: turns) =
      (turn.call.wrapped turn.outcome.result).toNat + countWrapped turns := by
  cases hwrapped : turn.call.wrapped turn.outcome.result <;>
    simp [countWrapped, hwrapped, Nat.add_comm]

theorem SecurityContext.countUnwrapped_cons (turn : Turn ω ν χ) (turns : List (Turn ω ν χ)) :
    countUnwrapped (turn :: turns) =
      (turn.call.unwrapped turn.outcome.result).toNat + countUnwrapped turns := by
  cases hunwrapped : turn.call.unwrapped turn.outcome.result <;>
    simp [countUnwrapped, hunwrapped, Nat.add_comm]

open SecurityContext (countWrapped countUnwrapped countWrapped_cons countUnwrapped_cons)

namespace Negotiate

/-- The number under which a message was to be protected. -/
def Call.sealNumber? : Call υ η → Option UInt32
  | encrypt _ _ _ sequence => some sequence
  | _ => none

/-- The number under which a message was to be verified. -/
def Call.openNumber? : Call υ η → Option UInt32
  | decrypt _ sequence => some sequence
  | _ => none

/-- What a turn has asked of the package, made after some messages were protected and some
verified. -/
structure Numbered (turn : Turn (List (Call υ η) × ω) Note (Context η ψ)) (sent received : Nat)
    (calls : List (Call υ η)) : Prop where
  written : turn.outcome.state.2.1 = turn.before.2.1 ++ calls
  sealed : calls.filterMap Call.sealNumber? = [] ∧
      turn.call.wrapped turn.outcome.result = false ∨
    (∃ payload encrypt, turn.call = .wrap payload encrypt) ∧
      (calls.filterMap Call.sealNumber?).map UInt32.toNat = [sent % 2 ^ 32]
  opened : calls.filterMap Call.openNumber? = [] ∧
      turn.call.unwrapped turn.outcome.result = false ∨
    (∃ message, turn.call = .unwrap message) ∧
      (calls.filterMap Call.openNumber?).map UInt32.toNat = [received % 2 ^ 32]
  failed : ∀ error, turn.outcome.result = .error error →
    turn.outcome.state.1.state = turn.before.1.state ∧
      turn.outcome.state.1.sendSequence = turn.before.1.sendSequence ∧
      turn.outcome.state.1.receiveSequence = turn.before.1.receiveSequence
  misused : turn.call.protects = true → turn.before.1.state ≠ .established →
    ∃ error, error.kind = .protocolMisuse ∧ turn.outcome = ⟨.error error, turn.before, []⟩
  stepped : ∀ output, turn.outcome.result = .ok (.stepped output) →
    (output.complete = true ↔ turn.outcome.state.1.state = .established)

/-- Whether a context has counted the messages that it has protected and verified. -/
structure Context.Counts (context : Context η ψ) (sent received : Nat) : Prop where
  sent : context.sendSequence = UInt32.ofNat sent
  received : context.receiveSequence = UInt32.ofNat received

namespace Package

variable {context reached : Context η ψ} {call : SecurityContext.Call} {calls : List (Call υ η)}
  {result : Except AuthError SecurityContext.Answer} {sent received : Nat}

theorem Effect.counts (heffect : Effect context call calls result reached)
    (hcounts : context.Counts sent received) :
    reached.Counts (sent + (call.wrapped result).toNat)
      (received + (call.unwrapped result).toNat) := by
  obtain ⟨hsent, hreceived⟩ := hcounts
  cases heffect with
  | misused hcall => cases call <;> exact ⟨hsent, hreceived⟩
  | wrapped payload encrypt size message package =>
      refine ⟨?_, hreceived⟩
      simp [SecurityContext.Call.wrapped, hsent, UInt32.ofNat_add]
  | unwrapped message payload package =>
      refine ⟨hsent, ?_⟩
      simp [SecurityContext.Call.unwrapped, hreceived, UInt32.ofNat_add]
  | _ => exact ⟨hsent, hreceived⟩

theorem Effect.sealed (heffect : Effect context call calls result reached)
    (hcounts : context.Counts sent received) :
    calls.filterMap Call.sealNumber? = [] ∧ call.wrapped result = false ∨
      (∃ payload encrypt, call = .wrap payload encrypt) ∧
        (calls.filterMap Call.sealNumber?).map UInt32.toNat = [sent % 2 ^ 32] := by
  cases heffect with
  | misused hcall => cases call <;> simp [SecurityContext.Call.wrapped]
  | unprotected => simp [List.filterMap_cons, Call.sealNumber?, hcounts.sent]
  | wrapped => simp [List.filterMap_cons, Call.sealNumber?, hcounts.sent]
  | _ => simp [Call.sealNumber?, SecurityContext.Call.wrapped]

theorem Effect.opened (heffect : Effect context call calls result reached)
    (hcounts : context.Counts sent received) :
    calls.filterMap Call.openNumber? = [] ∧ call.unwrapped result = false ∨
      (∃ message, call = .unwrap message) ∧
        (calls.filterMap Call.openNumber?).map UInt32.toNat = [received % 2 ^ 32] := by
  cases heffect with
  | misused hcall => cases call <;> simp [SecurityContext.Call.unwrapped]
  | unverified => simp [Call.openNumber?, hcounts.received]
  | unwrapped => simp [Call.openNumber?, hcounts.received]
  | _ => simp [Call.openNumber?, SecurityContext.Call.unwrapped]

theorem Effect.failed {error : AuthError}
    (heffect : Effect context call calls (.error error) reached) :
    reached.state = context.state ∧ reached.sendSequence = context.sendSequence ∧
      reached.receiveSequence = context.receiveSequence := by
  cases heffect <;> exact ⟨rfl, rfl, rfl⟩

theorem Effect.stepped_complete {output : StepOutput}
    (heffect : Effect context call calls (.ok (.stepped output)) reached) :
    output.complete = true ↔ reached.state = .established := by
  cases heffect with
  | stepped input hcomplete => exact hcomplete

/-- One call is numbered by what was counted before it, and counted itself if it succeeds. -/
theorem act_numbered (library : Package ω υ η ψ) (hcounts : context.Counts sent received)
    (call : SecurityContext.Call) (trace : List (Call υ η)) (shared : ω) :
    let outcome := (library.recorded.context.act call).run (context, trace, shared)
    (∃ calls, Numbered ⟨call, (context, trace, shared), outcome⟩ sent received calls) ∧
      outcome.state.1.Counts (sent + (call.wrapped outcome.result).toNat)
        (received + (call.unwrapped outcome.result).toNat) := by
  have hmisused (hcall : call.protects = true) (hstate : context.state ≠ .established) :=
    library.recorded.exists_misuse hcall hstate (trace, shared)
  obtain ⟨calls, result, reached, shared', hends, heffect⟩ :=
    library.act_effective call context trace shared
  obtain ⟨notes, hrun⟩ := hends
  rw [hrun] at hmisused ⊢
  refine ⟨⟨calls, ?_⟩, heffect.counts hcounts⟩
  exact {
    written := rfl
    sealed := heffect.sealed hcounts
    opened := heffect.opened hcounts
    failed := by rintro error rfl; exact heffect.failed
    misused := hmisused
    stepped := by rintro output rfl; exact heffect.stepped_complete }

/-- Every turn is numbered by the turns before it. -/
theorem history_numbered (library : Package ω υ η ψ) (hcounts : context.Counts sent received)
    {calls : List SecurityContext.Call} {trace : List (Call υ η)} {shared : ω}
    {earlier later : List (Turn (List (Call υ η) × ω) Note (Context η ψ))}
    {turn : Turn (List (Call υ η) × ω) Note (Context η ψ)}
    (hsplit : library.recorded.context.history calls (context, trace, shared) =
      earlier ++ turn :: later) :
    ∃ made, Numbered turn (sent + countWrapped earlier) (received + countUnwrapped earlier)
      made := by
  induction earlier generalizing calls context trace shared sent received with
  | nil =>
      cases calls with
      | nil => cases hsplit
      | cons call calls =>
          obtain ⟨hturn, hcounts⟩ := library.act_numbered hcounts call trace shared
          obtain ⟨rfl, -⟩ := List.cons.inj hsplit
          exact hturn
  | cons first earlier ih =>
      cases calls with
      | nil => cases hsplit
      | cons call calls =>
          obtain ⟨hturn, hcounts⟩ := library.act_numbered hcounts call trace shared
          obtain ⟨rfl, hrest⟩ := List.cons.inj hsplit
          rw [countWrapped_cons, countUnwrapped_cons, ← Nat.add_assoc, ← Nat.add_assoc]
          exact ih hcounts hrest

theorem initiate_counts {library : Package ω υ η ψ} {target : String}
    {credential : InitiatorCredential Empty} {requirements : Requirements} {shared fresh : ω}
    (hinitiate : (library.initiate target credential requirements).Yields shared context fresh) :
    context.Counts 0 0 := by
  unfold initiate at hinitiate
  simp only [Action.yields_bind_iff, Action.yields_pure_iff] at hinitiate
  obtain ⟨_, _, -, _, _, -, _, _, -, _, _, -, rfl, -⟩ := hinitiate
  exact ⟨rfl, rfl⟩

/-- Whatever the package answers, a context that was just initiated numbers what it protects
by the messages that it has protected, and what it verifies by those that it has verified. A
call that fails is not counted, one that is made too early does not reach the package, and a
step says whether the context is established. -/
theorem messages_numbered (library : Package ω υ η ψ) {target : String}
    {credential : InitiatorCredential Empty} {requirements : Requirements} {shared fresh : ω}
    {context : Context η ψ}
    (hinitiate : (library.initiate target credential requirements).Yields shared context fresh)
    (calls : List SecurityContext.Call) (trace : List (Call υ η)) :
    let turns := library.recorded.context.history calls (context, trace, fresh)
    turns.map Turn.unrecorded = library.context.history calls (context, fresh) ∧
      ∀ earlier turn later, turns = earlier ++ turn :: later →
        ∃ made, Numbered turn (countWrapped earlier) (countUnwrapped earlier) made := by
  refine ⟨map_unrecorded_history library calls context trace fresh, ?_⟩
  intro earlier turn later hsplit
  have hnumbered := library.history_numbered (initiate_counts hinitiate) hsplit
  simpa using hnumbered

/-- A package that grants all it is asked for but to verify an empty message. -/
def obliging : Package Unit String Unit Unit where
  newClient shared := (.ok (), shared)
  username user _ shared := (.ok user, shared)
  acquire _ state := (.ok (some ()), state)
  advance _ _ _ state := (.ok ⟨.done, []⟩, state)
  trailerSize state := (.ok 1, state)
  encrypt _ trailer payload _ state := (.ok (trailer, payload), state)
  decrypt message _ state :=
    (if message.isEmpty then .error ⟨"nothing to verify", false⟩ else .ok message, state)

/-- A message that is protected too early and one that cannot be verified take no number. -/
theorem early_and_unverified_unnumbered :
    let context : Context Unit Unit :=
      ⟨(), some (), "s", .ofRequirements Requirements.handshake, .uninitiated, 0, 0⟩
    let calls : List SecurityContext.Call :=
      [.wrap [7] true, .step none, .wrap [7] true, .unwrap [], .wrap [7] false, .unwrap [8],
        .unwrap [9]]
    let turns := obliging.recorded.context.history calls (context, [], ())
    (obliging.initiate "s" .default Requirements.handshake).Yields () context () ∧
      turns.map Turn.unrecorded = obliging.context.history calls (context, ()) ∧
      (∀ earlier turn later, turns = earlier ++ turn :: later →
        ∃ made, Numbered turn (countWrapped earlier) (countUnwrapped earlier) made) ∧
      (turns.getLast?.map fun turn =>
        (turn.outcome.state.2.1.filterMap Call.sealNumber?,
          turn.outcome.state.2.1.filterMap Call.openNumber?)) = some ([0, 1], [0, 0, 1]) := by
  intro context calls turns
  have hinitiate : (obliging.initiate "s" .default Requirements.handshake).Yields () context () :=
    ⟨_, rfl⟩
  obtain ⟨hunrecorded, hnumbered⟩ := messages_numbered obliging hinitiate calls []
  exact ⟨hinitiate, hunrecorded, hnumbered, by decide +kernel⟩

end Package

end Negotiate

end KerberosLogin
