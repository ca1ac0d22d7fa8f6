import KerberosLogin.Proofs.Negotiate.Trace
import KerberosLogin.StandIn.AccountServer.Package

/-! # The handle that is lent for a step

A context has one handle of credentials, which it lends to the package for each step. A ledger
tells what the package is seen to do with it: what it grants to begin with, what each step lends
to it, and what it leaves of that. A step lends what the package has left the time before, unless
the package has failed then. What was lent for a failure is not taken back, even if the package
has not touched it. A step that fails changes nothing else of the context.
-/

namespace KerberosLogin

open SecurityContext (Turn)

variable {ω δ γ ε υ η ψ α : Type}

namespace Negotiate

/-! ## The ledger -/

/-- A handle in the hands of the package for one step. -/
structure Loan (η : Type) where
  handle : Option η
  answer : Except StepFault Progress
  /-- The handle as the package has left it. -/
  left : Option η

/-- Whether the package has failed the step. A status that is no state is an answer
nevertheless. -/
def Loan.failed (loan : Loan η) : Bool :=
  !loan.answer.isOk

/-- What the package is seen to do with a handle. -/
inductive Dealing (η : Type) where
  /-- Credentials were acquired. -/
  | granted (handle : Option η)
  | lent (loan : Loan η)

namespace Dealing

/-- The handle as the package has left it. -/
def left : Dealing η → Option η
  | granted handle => handle
  | lent loan => loan.left

/-- Whether it was lent for a step that the package has failed. -/
def failed : Dealing η → Bool
  | granted _ => false
  | lent loan => loan.failed

/-- The handle that a context has afterwards. -/
def kept (dealing : Dealing η) : Option η :=
  if dealing.failed then none else dealing.left

/-- What is seen when credentials are asked for. -/
def ofAcquired : Except Fault (Option η) → List (Dealing η)
  | .ok handle => [granted handle]
  | .error _ => []

end Dealing

/-- What becomes of a context that has lent its handle for a step. -/
structure Loan.Settled (loan : Loan η) (context reached : Context η ψ)
    (result : Except AuthError SecurityContext.Answer) : Prop where
  returned : loan.failed = false → reached.handle = loan.left
  lost : loan.failed = true → reached.handle = none ∧ result.isOk = false
  unchanged : result.isOk = false →
    reached = { context with package := reached.package, handle := reached.handle }

theorem Loan.Settled.kept {loan : Loan η} {context reached : Context η ψ}
    {result : Except AuthError SecurityContext.Answer}
    (hsettled : loan.Settled context reached result) :
    reached.handle = (Dealing.lent loan).kept := by
  cases hfailed : loan.failed with
  | true => simp [Dealing.kept, Dealing.failed, hfailed, hsettled.lost hfailed]
  | false => simp [Dealing.kept, Dealing.failed, Dealing.left, hfailed, hsettled.returned hfailed]

/-- A step that has lent a handle, given the dealing before it. -/
structure Lends (turn : Turn (List (Dealing η) × ω) Note (Context η ψ)) (before : Dealing η)
    (loan : Loan η) : Prop where
  latest : turn.before.2.1.getLast? = some before
  written : turn.outcome.state.2.1 = turn.before.2.1 ++ [.lent loan]
  own : loan.handle = turn.before.1.handle
  asLeft : before.failed = false → loan.handle = before.left
  withheld : before.failed = true → loan.handle = none
  settled : loan.Settled turn.before.1 turn.outcome.state.1 turn.outcome.result

/-- Makes a call that works on a part of its own, and writes down what became of that part. -/
def keepLedger (entries : γ → Except δ α → γ → List ε) (call : LibraryCall (γ × ω) δ α) :
    LibraryCall (γ × List ε × ω) δ α :=
  fun (own, ledger, shared) =>
    let (answer, own', shared') := call (own, shared)
    (answer, own', ledger ++ entries own answer own', shared')

/-- Makes a call that has no part of its own, and writes nothing down. -/
def passBy (call : LibraryCall ω δ α) : LibraryCall (List ε × ω) δ α :=
  fun (ledger, shared) =>
    let (answer, shared') := call shared
    (answer, ledger, shared')

open Gssapi (passOn)

namespace Package

variable (library : Package ω υ η ψ)

/-- The same package, with a ledger of its dealings. -/
def ledgered : Package (List (Dealing η) × ω) υ η ψ where
  newClient := passBy library.newClient
  username user realm := passBy (library.username user realm)
  acquire identity :=
    keepLedger (fun _ answer _ => Dealing.ofAcquired answer) (library.acquire identity)
  advance flags target input :=
    keepLedger (fun lent answer left => [.lent ⟨lent.1, answer, left.1⟩])
      (library.advance flags target input)
  trailerSize := passOn library.trailerSize
  encrypt plain trailer payload sequence := passOn (library.encrypt plain trailer payload sequence)
  decrypt message sequence := passOn (library.decrypt message sequence)

variable {library}

/-! ## One step -/

/-- A step goes the same way with the ledger and without. It lends the handle that the context has,
and the ledger tells of that. -/
theorem step_lent (library : Package ω υ η ψ) (context : Context η ψ) (ledger : List (Dealing η))
    (input : Option Bytes) (shared : ω) :
    ∃ (loan : Loan η) (reached : Context η ψ) (result : Except AuthError SecurityContext.Answer)
      (shared' : ω),
      (library.ledgered.context.act (.step input)).run (context, ledger, shared) =
          ⟨result, (reached, ledger ++ [.lent loan], shared'), []⟩ ∧
        (library.context.act (.step input)).run (context, shared) =
          ⟨result, (reached, shared'), []⟩ ∧
        loan.handle = context.handle ∧ loan.Settled context reached result := by
  rcases hadvance : library.advance context.flags context.target input
    ((context.handle, context.package), shared) with
    ⟨fault | ⟨status, output⟩, ⟨left, package⟩, shared'⟩
  · simp only [SecurityContext.act, Package.context, Action.run_map, step, ledgered, keepLedger,
      hadvance, Except.map]
    refine ⟨_, _, _, _, rfl, rfl, rfl, ?_, fun _ => ⟨rfl, rfl⟩, fun _ => rfl⟩
    intro hanswered
    cases hanswered
  · cases hstatus : status.contextState with
    | error error =>
        simp only [SecurityContext.act, Package.context, Action.run_map, step, ledgered, keepLedger,
          hadvance, hstatus, Except.map]
        refine ⟨_, _, _, _, rfl, rfl, rfl, fun _ => rfl, ?_, fun _ => rfl⟩
        intro hfailed
        cases hfailed
    | ok state =>
        simp only [SecurityContext.act, Package.context, Action.run_map, step, ledgered, keepLedger,
          hadvance, hstatus, Except.map]
        refine ⟨_, _, _, _, rfl, rfl, rfl, fun _ => rfl, ?_, ?_⟩
        · intro hfailed
          cases hfailed
        · intro herror
          cases herror

theorem step_ledgered_unnoticed (input : Option Bytes) :
    Action.Related (Outcome.PairRelated Eq fun recorded shared => recorded.2 = shared) some some Eq
      (library.ledgered.context.act (.step input)) (library.context.act (.step input)) := by
  rintro ⟨context, ledger, shared⟩ ⟨_, _⟩ ⟨rfl, rfl⟩
  obtain ⟨loan, reached, result, shared', hledgered, hplain, -⟩ :=
    library.step_lent context ledger input shared
  rw [hledgered, hplain]
  exact ⟨Outcome.resultsRelated_refl (fun _ => rfl) _, ⟨rfl, rfl⟩, rfl⟩

/-! ## Every step -/

/-- A context that has kept what it may of the last dealing lends just that, in each step. -/
theorem history_lends (library : Package ω υ η ψ) {context : Context η ψ}
    {ledger : List (Dealing η)} {before : Dealing η} (hlatest : ledger.getLast? = some before)
    (hkept : context.handle = before.kept) (inputs : List (Option Bytes)) (shared : ω) :
    ∀ turn ∈ library.ledgered.context.history (inputs.map .step) (context, ledger, shared),
      ∃ before loan, Lends turn before loan := by
  induction inputs generalizing context ledger before shared with
  | nil =>
      intro turn hturn
      cases hturn
  | cons input inputs ih =>
      obtain ⟨loan, reached, result, shared', hrun, -, hown, hsettled⟩ :=
        library.step_lent context ledger input shared
      simp only [List.map_cons, SecurityContext.history, List.forall_mem_cons, hrun]
      constructor
      · exact ⟨before, loan, {
          latest := hlatest
          written := rfl
          own := hown
          asLeft := fun hanswered => by simp [hown, hkept, Dealing.kept, hanswered]
          withheld := fun hfailed => by simp [hown, hkept, Dealing.kept, hfailed]
          settled := hsettled }⟩
      · exact ih List.getLast?_concat hsettled.kept shared'

theorem identity?_ledgered {credential : InitiatorCredential Empty}
    {identity : Option (υ × Password)} {shared next : ω}
    (hidentity : (library.identity? credential).Yields shared identity next)
    (ledger : List (Dealing η)) :
    (library.ledgered.identity? credential).Yields (ledger, shared) identity (ledger, next) := by
  cases credential with
  | resolved handle => cases handle
  | embedded embedded =>
      simp only [identity?, Action.yields_bind_iff, Action.yields_pure_iff,
        Action.yields_ofCall_iff] at hidentity ⊢
      obtain ⟨name, _, hname, rfl, rfl⟩ := hidentity
      exact ⟨name, (ledger, _), by simp only [ledgered, passBy, hname], rfl, rfl⟩
  | default =>
      simp only [identity?, Action.yields_pure_iff] at hidentity ⊢
      obtain ⟨rfl, rfl⟩ := hidentity
      exact ⟨rfl, rfl⟩

theorem initiate_ledgered {target : String} {credential : InitiatorCredential Empty}
    {requirements : Requirements} {shared fresh : ω} {context : Context η ψ}
    (hinitiate : (library.initiate target credential requirements).Yields shared context fresh) :
    (library.ledgered.initiate target credential requirements).Yields ([], shared) context
      ([.granted context.handle], fresh) := by
  unfold initiate at hinitiate ⊢
  simp only [Action.yields_bind_iff, Action.yields_pure_iff, Action.yields_note_iff,
    Action.yields_ofCall_iff] at hinitiate ⊢
  obtain ⟨package, started, hnew, identity, named, hidentity, ⟨handle, acquired⟩, _, hacquire,
    _, _, rfl, rfl, rfl⟩ := hinitiate
  rw [Action.yields_withOwn_iff, Action.yields_ofCall_iff] at hacquire
  refine ⟨package, ([], started), ?_, identity, ([], named), identity?_ledgered hidentity [],
    (handle, acquired), ([.granted handle], fresh), ?_, (), _, rfl, rfl, rfl⟩
  · simp only [ledgered, passBy, hnew]
  · rw [Action.yields_withOwn_iff, Action.yields_ofCall_iff]
    simp only [ledgered, keepLedger, hacquire, Dealing.ofAcquired, List.nil_append]

/-- From the grant on, each step lends the handle as the package has left it the time before,
unless the package has failed then, and nothing in that case. What it leaves of a handle is
taken back with an answer and lost with a failure; but for that, a step that fails changes
nothing of the context. This holds whatever the package does and whatever it is given. -/
theorem handle_lent_as_left (library : Package ω υ η ψ) {target : String}
    {credential : InitiatorCredential Empty} {requirements : Requirements} {shared fresh : ω}
    {context : Context η ψ}
    (hinitiate : (library.initiate target credential requirements).Yields shared context fresh)
    (inputs : List (Option Bytes)) :
    let ledger : List (Dealing η) := [.granted context.handle]
    let turns := library.ledgered.context.history (inputs.map .step) (context, ledger, fresh)
    (library.ledgered.initiate target credential requirements).Yields ([], shared) context
        (ledger, fresh) ∧
      turns.map Turn.unrecorded = library.context.history (inputs.map .step) (context, fresh) ∧
      ∀ turn ∈ turns, ∃ before loan, Lends turn before loan := by
  refine ⟨initiate_ledgered hinitiate, ?_, library.history_lends rfl rfl inputs fresh⟩
  apply SecurityContext.map_unrecorded_history_of_related
  intro call hcall
  obtain ⟨input, -, rfl⟩ := List.mem_map.mp hcall
  exact step_ledgered_unnoticed input

/-- A package whose handle counts the steps that it has answered. It fails when it is given an
empty token, and does not know how to go on with any other. -/
def counting : Package Unit String Nat Unit where
  newClient shared := (.ok (), shared)
  username user _ shared := (.ok user, shared)
  acquire _ state := (.ok (some 0), state)
  advance _ _ input state :=
    let ((handle, package), shared) := state
    match input with
    | none => (.ok ⟨.continueNeeded, []⟩, (handle.map (· + 1), package), shared)
    | some [] => (.error (.refused ⟨"nothing to go on with", false⟩), state)
    | some _ => (.ok ⟨.other "Unsupported", []⟩, (handle.map (· + 1), package), shared)
  trailerSize state := (.ok 0, state)
  encrypt _ trailer payload _ state := (.ok (trailer, payload), state)
  decrypt message _ state := (.ok message, state)

/-- The handle survives a status that is no state, but not a failure. -/
theorem counted_handle_lent :
    let context : Context Nat Unit :=
      ⟨(), some 0, "s", .ofRequirements Requirements.handshake, .uninitiated, 0, 0⟩
    let inputs : List (Option Bytes) := [none, some [1], none, some [], none]
    let ledger : List (Dealing Nat) := [.granted (some 0)]
    let turns := counting.ledgered.context.history (inputs.map .step) (context, ledger, ())
    (counting.initiate "s" .default Requirements.handshake).Yields () context () ∧
      (counting.ledgered.initiate "s" .default Requirements.handshake).Yields ([], ()) context
        (ledger, ()) ∧
      turns.map Turn.unrecorded = counting.context.history (inputs.map .step) (context, ()) ∧
      (∀ turn ∈ turns, ∃ before loan, Lends turn before loan) ∧
      turns.map (fun turn => (turn.before.1.handle, turn.outcome.result.isOk)) =
        [(some 0, true), (some 1, false), (some 2, true), (some 3, false), (none, true)] := by
  intro context inputs ledger turns
  have hinitiate : (counting.initiate "s" .default Requirements.handshake).Yields () context () :=
    ⟨_, rfl⟩
  obtain ⟨hledgered, hunrecorded, hlends⟩ := handle_lent_as_left counting hinitiate inputs
  exact ⟨hinitiate, hledgered, hunrecorded, hlends, by decide +kernel⟩

/-- A step that fails for the name of the user costs the handle, though the package never touches
one. The next step does without it, and succeeds for that. -/
theorem handle_withheld_after_failure :
    let library : Package Unit StandIn.AccountServer.UserName Unit
      StandIn.AccountServer.Negotiation := StandIn.AccountServer.package
    let identity : EmbeddedIdentity := ⟨"a@b@c", none, ⟨"test_password"⟩⟩
    (∀ flags target input state, (library.advance flags target input state).2.1.1 = state.1.1) ∧
      ∃ context, (library.initiate "HTTP/s" (.embedded identity) Requirements.handshake).Yields ()
          context () ∧
        let turns := library.ledgered.context.history [.step none, .step none]
          (context, [.granted context.handle], ())
        turns.map (fun turn => (turn.before.1.handle, turn.outcome.result.isOk)) =
            [(some (), false), (none, true)] ∧
          turns.getLast?.map (fun turn => turn.outcome.state.2.1.map Dealing.left) =
            some [some (), some (), none] := by
  intro library identity
  refine ⟨fun _ _ _ _ => rfl, ⟨{ identity := some (⟨"a@b", "c"⟩, ⟨"test_password"⟩) }, some (),
    "HTTP/s", .ofRequirements Requirements.handshake, .uninitiated, 0, 0⟩, ?_, ?_, ?_⟩
  · have hread : StandIn.AccountServer.UserName.read? "a@b@c" "" = some ⟨"a@b", "c"⟩ := by
      decide +kernel
    have hname : library.username "a@b@c" none () = (.ok ⟨"a@b", "c"⟩, ()) := by
      simp [library, StandIn.AccountServer.package, hread]
    have hidentity : (library.identity? (.embedded identity)).Yields ()
        (some (⟨"a@b", "c"⟩, ⟨"test_password"⟩)) () := by
      simp only [identity?, identity, Action.yields_bind_iff, Action.yields_pure_iff,
        Action.yields_ofCall_iff]
      exact ⟨_, (), hname, rfl, trivial⟩
    simp only [initiate, Action.yields_bind_iff, Action.yields_pure_iff, Action.yields_note_iff,
      Action.yields_ofCall_iff]
    exact ⟨{}, (), rfl, _, (), hidentity, (some (), _), (), ⟨_, rfl⟩, (), (), trivial, rfl,
      trivial⟩
  all_goals decide +kernel

end Package

end Negotiate

end KerberosLogin
