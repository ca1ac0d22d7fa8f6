import KerberosLogin.Proofs.Handshake.CallLog
import KerberosLogin.StandIn.Scripted

/-! # Tokens in the log

The bytes of tokens and messages are logged at the most detailed level only. Two runs with
the same kinds of calls, over providers that disclose the same, are logged alike at all the
other levels, whatever the tokens and the messages are.
-/

namespace KerberosLogin

variable {ω ω' ν ν' κ κ' χ χ' : Type}

namespace Client

/-- Whether clients have the same credentials and providers that are named alike and take
identities alike. -/
structure Alike (client : Client ω ν κ χ) (client' : Client ω' ν' κ' χ') : Prop where
  credentials : client.credentials = client'.credentials
  name : client.provider.name = client'.provider.name
  embeds : client.embeds = client'.embeds

/-- The first packet that calls bring. -/
def firstPacket? (calls : List Call) : Option (Option Bytes) :=
  calls.findSome? fun
    | .begin initial => some initial
    | _ => none

variable {client : Client ω ν κ χ} {client' : Client ω' ν' κ' χ'} {see : ν → Option LogRecord}
  {see' : ν' → Option LogRecord}

/-! ## One call in two runs -/

theorem Alike.foreword_eq (halike : client.Alike client') (call : Call) :
    client.foreword call = client'.foreword call := by
  have hidentity : client.explicitIdentity? = client'.explicitIdentity? := by
    funext challenge
    simp only [explicitIdentity?, halike.credentials]
  have hnotes : client.challengeNotes = client'.challengeNotes := by
    funext challenge
    simp only [challengeNotes, identityNotes, halike.name, halike.embeds, hidentity]
  cases call with
  | begin initial => simp only [foreword, halike.credentials, hnotes]
  | proceed token => rfl
  | close message => rfl

/-- Where the same is known before the provider is asked, the disclosures tell the calls
apart, and all that is logged. -/
theorem Told.unique {call call' : Call} {before before' later later' : List Disclosure}
    {outcome : Outcome (Exchange χ × List Disclosure × ω) (HandshakeNote ν) Answer}
    {outcome' : Outcome (Exchange χ' × List Disclosure × ω') (HandshakeNote ν') Answer}
    {events events' : List Disclosure} (htold : client.Told see call before outcome events)
    (htold' : client'.Told see' call' before' outcome' events')
    (hkind : call.operation = call'.operation)
    (hforeword : client.foreword call = client'.foreword call')
    (hsame : events ++ later = events' ++ later') :
    later = later' ∧ outcome.state.1.state = outcome'.state.1.state ∧
      outcome.notes.filterMap (HandshakeNote.untraced see) =
        outcome'.notes.filterMap (HandshakeNote.untraced see') := by
  have hevents : events = events' ∧ outcome.state.1.state = outcome'.state.1.state := by
    have hleads := htold.leadsTo
    have hleads' := htold'.leadsTo
    unfold LeadsTo at hleads hleads'
    rw [hforeword] at hleads
    generalize (client'.foreword call').2 = end? at hleads hleads'
    cases end? with
    | none => exact hleads.unique hleads' hsame
    | some state =>
        obtain ⟨rfl, hstate⟩ := hleads
        obtain ⟨rfl, hstate'⟩ := hleads'
        exact ⟨rfl, hstate.trans hstate'.symm⟩
  obtain ⟨rfl, hstate⟩ := hevents
  refine ⟨List.append_cancel_left hsame, hstate, ?_⟩
  rw [htold.logged, htold'.logged, preamble, preamble, hforeword, hkind]

/-! ## Runs -/

theorem disclosed_prefix_reached (client : Client ω ν κ χ) (see : ν → Option LogRecord)
    (calls : List Call) {state : Exchange χ × List Disclosure × ω}
    (hequipped : Equipped state.1) :
    state.2.1 <+: ((client.disclosing see).reached calls state).2.1 := by
  induction calls generalizing state with
  | nil => exact List.prefix_refl _
  | cons call calls ih =>
      by_cases hstate : state.1.state = call.operation.requiredState
      · obtain ⟨events, htold⟩ := client.call_told see hstate hequipped
        have hlater := ih htold.equipped
        rw [htold.disclosed] at hlater
        exact (List.prefix_append _ _).trans hlater
      · rw [reached, (client.disclosing see).run_call_of_refused hstate]
        exact ih hequipped

theorem Told.exists_later {call : Call} {before later events : List Disclosure}
    {outcome : Outcome (Exchange χ × List Disclosure × ω) (HandshakeNote ν) Answer}
    (htold : client.Told see call before outcome events) (calls : List Call)
    (hlater : ((client.disclosing see).reached calls outcome.state).2.1 = before ++ later) :
    ∃ more, later = events ++ more ∧
      ((client.disclosing see).reached calls outcome.state).2.1 = outcome.state.2.1 ++ more := by
  obtain ⟨more, hmore⟩ := client.disclosed_prefix_reached see calls htold.equipped
  refine ⟨more, ?_, hmore.symm⟩
  rw [htold.disclosed, hlater, List.append_assoc] at hmore
  exact (List.append_cancel_left hmore).symm

theorem firstPacket?_cons_of_ne_begin {call : Call} (hcall : call.operation ≠ .begin)
    (calls : List Call) : firstPacket? (call :: calls) = firstPacket? calls := by
  cases call with
  | begin initial => exact absurd rfl hcall
  | proceed token => rfl
  | close message => rfl

theorem Alike.foreword_eq_of_firstPacket? (halike : client.Alike client') {call call' : Call}
    (hkind : call.operation = call'.operation) {calls calls' : List Call}
    (hpacket : call.operation = .begin →
      firstPacket? (call :: calls) = firstPacket? (call' :: calls')) :
    client.foreword call = client'.foreword call' := by
  by_cases hbegin : call.operation = .begin
  · cases call with
    | begin initial =>
        cases call' with
        | begin initial' =>
            cases hpacket rfl
            exact halike.foreword_eq _
        | proceed token' | close message' => cases hkind
    | proceed token | close message => cases hbegin
  · rw [client.foreword_of_ne_begin hbegin, client'.foreword_of_ne_begin (hkind ▸ hbegin)]

/-- Runs that go on alike are logged alike. -/
theorem map_untraced_run_eq (halike : client.Alike client') (see : ν → Option LogRecord)
    (see' : ν' → Option LogRecord) {calls calls' : List Call}
    (hkinds : calls.map Call.operation = calls'.map Call.operation)
    (state : Exchange χ × List Disclosure × ω) (state' : Exchange χ' × List Disclosure × ω')
    (hequipped : Equipped state.1) (hequipped' : Equipped state'.1)
    (hstate : state.1.state = state'.1.state)
    (hpacket : state.1.state = .start → firstPacket? calls = firstPacket? calls')
    {later : List Disclosure}
    (hlater : ((client.disclosing see).reached calls state).2.1 = state.2.1 ++ later)
    (hlater' : ((client'.disclosing see').reached calls' state').2.1 = state'.2.1 ++ later) :
    ((client.disclosing see).run calls state).map
        (fun outcome => outcome.notes.filterMap (HandshakeNote.untraced see)) =
      ((client'.disclosing see').run calls' state').map
        fun outcome => outcome.notes.filterMap (HandshakeNote.untraced see') := by
  induction calls generalizing calls' state state' later with
  | nil =>
      cases calls' with
      | nil => rfl
      | cons call' calls' => cases hkinds
  | cons call calls ih =>
      cases calls' with
      | nil => cases hkinds
      | cons call' calls' =>
          obtain ⟨hkind, hkinds⟩ := List.cons.inj hkinds
          rw [run, run, List.map_cons, List.map_cons]
          rw [reached] at hlater hlater'
          by_cases haccepted : state.1.state = call.operation.requiredState
          · have haccepted' : state'.1.state = call'.operation.requiredState := by
              rw [← hstate, ← hkind, haccepted]
            obtain ⟨events, htold⟩ := client.call_told see haccepted hequipped
            obtain ⟨events', htold'⟩ := client'.call_told see' haccepted' hequipped'
            obtain ⟨more, rfl, hmore⟩ := htold.exists_later calls hlater
            obtain ⟨more', hsame, hmore'⟩ := htold'.exists_later calls' hlater'
            have hforeword := halike.foreword_eq_of_firstPacket? hkind fun hbegin =>
              hpacket (by rw [haccepted, hbegin]; rfl)
            obtain ⟨rfl, hreached, hlog⟩ := htold.unique htold' hkind hforeword hsame
            have hstarted := htold.leadsTo.ne_start
            rw [hlog, ih hkinds _ _ htold.equipped htold'.equipped hreached
              (fun hstart => absurd hstart hstarted) hmore hmore']
          · have hrefused' : state'.1.state ≠ call'.operation.requiredState := by
              rw [← hstate, ← hkind]
              exact haccepted
            -- A refused call leaves a fresh exchange fresh, and it brings no packet.
            have hpacket : state.1.state = .start → firstPacket? calls = firstPacket? calls' := by
              intro hstart
              have hbegin : call.operation ≠ .begin := by
                intro hbegin
                rw [hstart, hbegin] at haccepted
                exact haccepted rfl
              rw [← firstPacket?_cons_of_ne_begin hbegin calls,
                ← firstPacket?_cons_of_ne_begin (hkind ▸ hbegin) calls']
              exact hpacket hstart
            rw [(client.disclosing see).run_call_of_refused haccepted] at hlater ⊢
            rw [(client'.disclosing see').run_call_of_refused hrefused'] at hlater' ⊢
            exact congrArg ([] :: ·) (ih hkinds state state' hequipped
              hequipped' hstate hpacket hlater hlater')

theorem map_untraced_disclosing (client : Client ω ν κ χ) (see : ν → Option LogRecord)
    (calls : List Call) (shared : ω) :
    ((client.disclosing see).run calls ({}, [], shared)).map
        (fun outcome => outcome.notes.filterMap (HandshakeNote.untraced see)) =
      (client.run calls ({}, shared)).map
        fun outcome => outcome.notes.filterMap (HandshakeNote.untraced see) := by
  have hnotes := congrArg (List.map (List.filterMap (HandshakeNote.untraced see)))
    (client.map_notes_disclosing see calls shared)
  rw [List.map_map, List.map_map] at hnotes
  exact hnotes

/-! ## Tokens -/

/-- Tokens and messages show in the log at the most detailed level only. Let two clients have
the same credentials, over providers of one name that take identities alike, and let them be
called in the same ways, with the same first packet but with any tokens and messages. If the
providers decide the same, with tokens and messages of the same sizes, then at all other
levels each call is logged in the one run as it is in the other. An observer who sees nothing
of what the providers themselves log need not compare that either. -/
theorem tokens_undistinguished (client : Client ω ν κ χ) (client' : Client ω' ν' κ' χ')
    (see : ν → Option LogRecord) (see' : ν' → Option LogRecord) (calls calls' : List Call)
    (shared : ω) (shared' : ω') (halike : client.Alike client')
    (hkinds : calls.map Call.operation = calls'.map Call.operation)
    (hpacket : firstPacket? calls = firstPacket? calls')
    (hdisclosed : client.disclosures see calls shared = client'.disclosures see' calls' shared') :
    (client.run calls ({}, shared)).map
        (fun outcome => outcome.notes.filterMap (HandshakeNote.untraced see)) =
      (client'.run calls' ({}, shared')).map
        fun outcome => outcome.notes.filterMap (HandshakeNote.untraced see') := by
  rw [← client.map_untraced_disclosing see, ← client'.map_untraced_disclosing see']
  exact map_untraced_run_eq halike see see' hkinds ({}, [], shared) ({}, [], shared')
    (equipped_of_idle (by simp)) (equipped_of_idle (by simp)) rfl (fun _ => hpacket) rfl
    hdisclosed.symm

/-- Two exchanges with no token in common, one of them with an empty token where the other
has none. -/
theorem other_tokens_undistinguished :
    let credentials : Credentials := ⟨some "alice", none⟩
    let env : CacheEnvironment := ⟨some "c", none, []⟩
    let client : Client _ _ _ _ :=
      ⟨StandIn.ProviderScript.provider { wrapping := ([1], [2]) }, credentials, env⟩
    let client' : Client _ _ _ _ :=
      ⟨StandIn.ProviderScript.provider { wrapping := ([3, 4], []) }, credentials, env⟩
    let see (note : ResolverNote Empty) : Option LogRecord := some (note.logRecord Empty.elim)
    let caches := [("FILE:c", StandIn.CacheEntry.holding ⟨"alice", some "A"⟩ ⟨0, 1⟩)]
    let stage : StandIn.Stage :=
      { caches := caches
        steps := [.yielding ⟨some [4], false⟩ none, .yielding ⟨none, true⟩ none] }
    let stage' : StandIn.Stage :=
      { caches := caches
        steps := [.yielding ⟨some [5], false⟩ none, .yielding ⟨some [], true⟩ none] }
    let packet : Option Bytes := some [1, 0, 115, 1, 0, 65]
    let calls : List Call := [.begin packet, .proceed (some [6]), .close [7]]
    let calls' : List Call := [.begin packet, .proceed none, .close [8]]
    client.Alike client' ∧ calls.map Call.operation = calls'.map Call.operation ∧
      firstPacket? calls = firstPacket? calls' ∧
      client.disclosures see calls stage = client'.disclosures see calls' stage' ∧
      (client.run calls ({}, stage)).map
          (fun outcome => outcome.notes.filterMap (HandshakeNote.untraced see)) =
        (client'.run calls' ({}, stage')).map
          (fun outcome => outcome.notes.filterMap (HandshakeNote.untraced see)) ∧
      (client.run calls ({}, stage)).map Outcome.result ≠
        (client'.run calls' ({}, stage')).map Outcome.result := by
  intro credentials env client client' see caches stage stage' packet calls calls'
  have halike : client.Alike client' := ⟨rfl, rfl, rfl⟩
  have hdisclosed : client.disclosures see calls stage = client'.disclosures see calls' stage' := by
    decide +kernel
  have hlogged := tokens_undistinguished client client' see see calls calls' stage stage' halike
    rfl rfl hdisclosed
  exact ⟨halike, rfl, rfl, hdisclosed, hlogged, by decide +kernel⟩

end Client

end KerberosLogin
