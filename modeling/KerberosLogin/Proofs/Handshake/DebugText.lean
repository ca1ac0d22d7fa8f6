import KerberosLogin.Proofs.Handshake.Secrecy
import KerberosLogin.Proofs.Text.Shown
import KerberosLogin.StandIn.Scripted

/-! # Passwords in debug text

Whatever holds a password is shown without its text, with two exceptions. A request for
credentials is shown with the password in quotes, and an answer that falls back to the
password is shown with its bytes, as is the data that is made of it. These texts tell the
password.
-/

namespace KerberosLogin

variable {ω ν κ χ : Type}

/-! ## Credentials -/

namespace Credentials

/-- Whether credentials differ in the text of a password at most. -/
structure Alike (credentials credentials' : Credentials) : Prop where
  username : credentials.username = credentials'.username
  password : credentials.password.isSome = credentials'.password.isSome

/-- A step in which a caller makes up credentials. -/
inductive Step where
  | username (name : String)
  | password (text : String)

namespace Step

/-- Takes a step. -/
def apply (credentials : Credentials) : Step → Credentials
  | username name => credentials.withUsername name
  | password text => credentials.withPassword text

/-- Steps that differ in the text of a password at most. -/
inductive Alike : Step → Step → Prop where
  | username (name : String) : Alike (.username name) (.username name)
  | password (text text' : String) : Alike (.password text) (.password text')

end Step

/-- Credentials after steps in turn. -/
def built (credentials : Credentials) (steps : List Step) : Credentials :=
  steps.foldl Step.apply credentials

theorem Alike.shown_eq {credentials credentials' : Credentials}
    (halike : credentials.Alike credentials') : credentials.shown = credentials'.shown := by
  rcases credentials with ⟨username, _ | password⟩ <;>
    rcases credentials' with ⟨username', _ | password'⟩ <;>
    obtain ⟨rfl, hpassword⟩ := halike
  · rfl
  · cases hpassword
  · cases hpassword
  · rfl

theorem Alike.built {credentials credentials' : Credentials}
    (halike : credentials.Alike credentials') {steps steps' : List Step}
    (hsteps : List.Forall₂ Step.Alike steps steps') :
    (credentials.built steps).Alike (credentials'.built steps') := by
  induction hsteps generalizing credentials credentials' with
  | nil => exact halike
  | cons hstep _ ih =>
      apply ih
      cases hstep with
      | username name => exact ⟨rfl, halike.password⟩
      | password text text' => exact ⟨halike.username, rfl⟩

end Credentials

/-! ## Requests and answers -/

theorem IdentityRequest.shown_given_inj {request : IdentityRequest} {first second : Password} :
    (request.given first).shown = (request.given second).shown ↔ first = second := by
  constructor
  · intro hsame
    have hquoted : Shown.quoted first.expose = Shown.quoted second.expose := by
      simpa [shown, given, Shown.record, Shown.fields, Shown.option,
        (Shown.call_injective _).eq_iff] using hsame
    rcases first with ⟨first⟩
    rcases second with ⟨second⟩
    exact congrArg Password.mk (Shown.quoted_injective hquoted)
  · exact fun hsame => hsame ▸ rfl

theorem ClearPassword.payload_injective : Function.Injective payload := by
  intro first second hsame
  rcases first with ⟨first⟩
  rcases second with ⟨second⟩
  have hencoded : Utf8.encode first = Utf8.encode second := List.append_cancel_right hsame
  have hdecoded : Utf8.decode (Utf8.encode second) = .ok first :=
    Utf8.decode_eq_ok_iff.mpr hencoded
  rw [Utf8.decode_eq_ok_iff.mpr rfl] at hdecoded
  exact congrArg Password.mk (Except.ok.inj hdecoded).symm

namespace InitialResponse

/-- Whether two answers to a first packet show which of two passwords was sent, if one was,
and nothing else of the passwords. -/
structure ShowSent (first second : Password) (answer answer' : InitialResponse) : Prop where
  fallback : answer.isPasswordFallback = answer'.isPasswordFallback
  response : answer.shown = answer'.shown ↔ (answer.isPasswordFallback = true → first = second)
  data : answer.authData.shown = answer'.authData.shown ↔
    (answer.isPasswordFallback = true → first = second)

theorem showSent_kerberos (first second : Password) (outcome : HandshakeOutcome) :
    ShowSent first second (.kerberos outcome) (.kerberos outcome) := by
  constructor <;> simp [isPasswordFallback]

theorem showSent_payload (first second : Password) :
    ShowSent first second (.passwordFallback (ClearPassword.payload first))
      (.passwordFallback (ClearPassword.payload second)) := by
  constructor
  case fallback => rfl
  all_goals
    simp [isPasswordFallback, shown, authData, AuthData.shown, (Shown.call_injective _).eq_iff,
      Shown.bytes_injective.eq_iff, ClearPassword.payload_injective.eq_iff]

end InitialResponse

/-- Answers that show which of two passwords was sent, if one was, and else are the same. -/
def Client.Answer.ShowSent (first second : Password) : Answer → Answer → Prop
  | .initial response, .initial response' => response.ShowSent first second response'
  | answer, answer' => answer = answer'

namespace Client

/-! ## Runs -/

/-- Whether after two calls of clients with a password each, the clients are shown alike, and
the answers show no more of the passwords than which was sent. -/
structure ShowSent (client : Client ω ν κ χ) (first second : Password)
    (outcome outcome' : Outcome (Exchange χ × ω) (HandshakeNote ν) Answer) : Prop where
  exchange : (client.given first).shown outcome.state.1 =
    (client.given second).shown outcome'.state.1
  result : Outcome.ResultsRelated (Answer.ShowSent first second) outcome.result outcome'.result

variable {client : Client ω ν κ χ} {first second : Password}

theorem shown_given_eq (client : Client ω ν κ χ) (first second : Password)
    {exchange exchange' : Exchange χ} (hstate : exchange.state = exchange'.state)
    (hchallenge : exchange.challenge = exchange'.challenge) :
    (client.given first).shown exchange = (client.given second).shown exchange' := by
  have hcredentials : (client.given first).credentials.shown =
      (client.given second).credentials.shown := Credentials.Alike.shown_eq ⟨rfl, rfl⟩
  unfold shown
  rw [hcredentials, hstate, hchallenge]
  rfl

theorem Effect.payload_eq {exchange reached : Exchange χ} {call : Call}
    {events : List (ProviderEvent κ)} {payload : Bytes} {password : Password}
    (heffect : client.Effect exchange call events
      (.ok (.initial (.passwordFallback payload))) reached)
    (hpassword : client.credentials.password = some password) :
    payload = ClearPassword.payload password := by
  cases heffect with
  | fellBack _ hpassword' =>
      cases hpassword.symm.trans hpassword'
      rfl

/-- A password that is sent is the client's. -/
theorem payload_of_sent {password : Password}
    (hpassword : client.credentials.password = some password) {call : Call}
    {state : Exchange χ × ω} {payload : Bytes}
    (hresult : ((client.call call).run state).result =
      .ok (.initial (.passwordFallback payload))) :
    payload = ClearPassword.payload password := by
  rcases state with ⟨exchange, shared⟩
  cases call with
  | begin initial =>
      by_cases hstate : exchange.state = .start
      · have hvisit : ∃ events, client.Settled
            (client.watched.visit (.begin initial) (exchange, [], shared)) events :=
          client.visit_settled hstate (absurd rfl)
        obtain ⟨events, hsettled⟩ := hvisit
        have hwatched := congrArg Outcome.result
          (client.unwatched_call (.begin initial) exchange [] shared)
        have hresult :
            (client.watched.visit (.begin initial) (exchange, [], shared)).outcome.result =
              .ok (.initial (.passwordFallback payload)) := hwatched.trans hresult
        have heffect := hsettled.effect
        rw [hresult] at heffect
        exact heffect.payload_eq hpassword
      · have hrefused : ((client.call (.begin initial)).run (exchange, shared)).result =
            .error (Operation.begin.misuse exchange.state) :=
          congrArg Outcome.result (client.run_call_of_refused hstate)
        cases hrefused.symm.trans hresult
  | proceed token | close message =>
      simp only [Client.call, Action.run_map, Except.map] at hresult
      split at hresult <;> cases hresult

/-- Answers that differ in no more than the passwords sent show no more, if what is sent is the
password in each case. -/
theorem Answer.Alike.showSent {answer answer' : Answer}
    (halike : Answer.Alike first second answer answer')
    (hsent : ∀ payload, answer = .initial (.passwordFallback payload) →
      payload = ClearPassword.payload first)
    (hsent' : ∀ payload, answer' = .initial (.passwordFallback payload) →
      payload = ClearPassword.payload second) : Answer.ShowSent first second answer answer' := by
  cases halike with
  | sent => exact InitialResponse.showSent_payload first second
  | same =>
      rcases answer with (outcome | payload) | outcome | message
      · exact InitialResponse.showSent_kerberos first second outcome
      · -- Both clients send this payload, so they have the same password.
        have hshow := InitialResponse.showSent_payload first second
        rwa [← hsent payload rfl, ← hsent' payload rfl] at hshow
      · rfl
      · rfl

theorem call_showSent {W : ω → ω → Prop} {K : κ → κ → Prop} {X : χ → χ → Prop}
    {see : ν → Option LogRecord} (hempty : first.expose.isEmpty = second.expose.isEmpty)
    (hprovider : (client.provider.given first).Related W K X see see
      (client.provider.given second)) (call : Call) {state state' : Exchange χ × ω}
    (hstate : Outcome.PairRelated (Exchange.Related X) W state state') :
    client.ShowSent first second (((client.given first).call call).run state)
      (((client.given second).call call).run state') := by
  obtain ⟨⟨hresult, hreached, hchallenge, -⟩, -⟩ :=
    call_undistinguished hempty hprovider call hstate
  refine ⟨client.shown_given_eq first second hreached hchallenge, ?_⟩
  have hsent : ∀ payload, (((client.given first).call call).run state).result =
      .ok (.initial (.passwordFallback payload)) → payload = ClearPassword.payload first :=
    fun _ => payload_of_sent rfl
  have hsent' : ∀ payload, (((client.given second).call call).run state').result =
      .ok (.initial (.passwordFallback payload)) → payload = ClearPassword.payload second :=
    fun _ => payload_of_sent rfl
  generalize (((client.given first).call call).run state).result = result at hresult hsent
  generalize (((client.given second).call call).run state').result = result' at hresult hsent'
  rcases result with error | answer <;> rcases result' with error' | answer'
  · exact hresult
  · exact hresult.elim
  · exact hresult.elim
  · exact Answer.Alike.showSent hresult (fun payload hanswer => hsent payload (hanswer ▸ rfl))
      fun payload hanswer => hsent' payload (hanswer ▸ rfl)

theorem run_showSent {W : ω → ω → Prop} {K : κ → κ → Prop} {X : χ → χ → Prop}
    {see : ν → Option LogRecord} (hempty : first.expose.isEmpty = second.expose.isEmpty)
    (hprovider : (client.provider.given first).Related W K X see see
      (client.provider.given second)) (calls : List Call) {state state' : Exchange χ × ω}
    (hstate : Outcome.PairRelated (Exchange.Related X) W state state') :
    List.Forall₂ (client.ShowSent first second) ((client.given first).run calls state)
      ((client.given second).run calls state') := by
  induction calls generalizing state state' with
  | nil => exact .nil
  | cons call calls ih =>
      obtain ⟨-, hreached⟩ := call_undistinguished hempty hprovider call hstate
      exact .cons (call_showSent hempty hprovider call hstate) (ih hreached)

theorem fallBack_showSent (client : Client ω ν κ χ) (first second : Password)
    {initial : Option Bytes} (hpacket : Challenge.decodeOptional initial = .ok none)
    (shared shared' : ω) :
    ∃ response response',
      (((client.given first).call (.begin initial)).run ({}, shared)).result =
          .ok (.initial response) ∧
        (((client.given second).call (.begin initial)).run ({}, shared')).result =
          .ok (.initial response') ∧
        response.isPasswordFallback = true ∧ response.ShowSent first second response' := by
  rw [run_call_of_fallBack shared rfl hpacket rfl, run_call_of_fallBack shared' rfl hpacket rfl]
  exact ⟨_, _, rfl, rfl, rfl, InitialResponse.showSent_payload first second⟩

/-- Where a password shows. Passwords, credentials however they are made up, identities for a
provider and clients in any state are shown without its text. A request for credentials is
shown with it. An answer to a first packet and its data tell it exactly if it is sent, as long
as the provider answers alike whichever of two passwords it is handed, and both of them or
neither are empty. -/
theorem passwords_shown_where_sent {first second : Password} (client : Client ω ν κ χ)
    {W : ω → ω → Prop} {K : κ → κ → Prop} {X : χ → χ → Prop} (see : ν → Option LogRecord)
    (hprovider : (client.provider.given first).Related W K X see see
      (client.provider.given second)) :
    first.shown = second.shown ∧
      (∀ steps steps', List.Forall₂ Credentials.Step.Alike steps steps' →
        ((client.given first).credentials.built steps).shown =
          ((client.given second).credentials.built steps').shown) ∧
      (∀ (handle : κ → String) (credential : InitiatorCredential κ),
        (credential.given first).shown handle = (credential.given second).shown handle) ∧
      (∀ exchange : Exchange χ,
        (client.given first).shown exchange = (client.given second).shown exchange) ∧
      (∀ challenge, ((client.given first).request challenge).shown =
        ((client.given second).request challenge).shown ↔ first = second) ∧
      (∀ initial shared shared', Challenge.decodeOptional initial = .ok none →
        ∃ response response',
          (((client.given first).call (.begin initial)).run ({}, shared)).result =
              .ok (.initial response) ∧
            (((client.given second).call (.begin initial)).run ({}, shared')).result =
              .ok (.initial response') ∧
            response.isPasswordFallback = true ∧ response.ShowSent first second response') ∧
      (first.expose.isEmpty = second.expose.isEmpty → ∀ calls shared shared', W shared shared' →
        List.Forall₂ (client.ShowSent first second) ((client.given first).run calls ({}, shared))
          ((client.given second).run calls ({}, shared'))) := by
  refine ⟨rfl, ?_, ?_, fun _ => client.shown_given_eq first second rfl rfl, ?_, ?_, ?_⟩
  · intro steps steps' hsteps
    have halike : (client.given first).credentials.Alike (client.given second).credentials :=
      ⟨rfl, rfl⟩
    exact (halike.built hsteps).shown_eq
  · intro handle credential
    cases credential <;> rfl
  · intro challenge
    exact (IdentityRequest.shown_given_inj : ((client.request challenge).given first).shown =
      ((client.request challenge).given second).shown ↔ first = second)
  · intro initial shared shared' hpacket
    exact client.fallBack_showSent first second hpacket shared shared'
  · intro hempty calls shared shared' hshared
    exact run_showSent hempty hprovider calls ⟨⟨rfl, rfl, .none⟩, hshared⟩

/-- A client over a cache of tickets, with passwords of different sizes. -/
theorem other_sizes_shown :
    let env : CacheEnvironment := ⟨some "c", none, []⟩
    let library := StandIn.TicketCache.mechanism
    let client : Client _ _ _ _ := ⟨library.provider env, ⟨some "alice", none⟩, env⟩
    let see (note : Gssapi.Note) : Option LogRecord := some note.logRecord
    let host := StandIn.TicketCache.Host.empty
    (client.provider.given ⟨"secret"⟩).Related Eq Eq Eq see see
        (client.provider.given ⟨"long secret"⟩) ∧
      List.Forall₂ (client.ShowSent ⟨"secret"⟩ ⟨"long secret"⟩)
        ((client.given ⟨"secret"⟩).run [.begin none, .close []] ({}, host))
        ((client.given ⟨"long secret"⟩).run [.begin none, .close []] ({}, host)) := by
  intro env library client see host
  have hlibrary : ∀ name set, library.acquireWithPassword name ⟨"secret"⟩ set =
      library.acquireWithPassword name ⟨"long secret"⟩ set := fun _ _ => rfl
  have hprovider : (client.provider.given ⟨"secret"⟩).Related Eq Eq Eq see see
      (client.provider.given ⟨"long secret"⟩) := by
    have hgiven := Gssapi.Mechanism.provider_given env hlibrary
    rw [hgiven]
    exact SecurityProvider.related_refl _ see
  obtain ⟨-, -, -, -, -, -, hruns⟩ := client.passwords_shown_where_sent see hprovider
  exact ⟨hprovider, hruns (by decide) _ _ _ rfl⟩

/-- Two clients of one user are shown apart once they fall back to their passwords. -/
theorem password_shown_with_fallback :
    let client (password : String) : Client _ _ _ _ :=
      ⟨StandIn.ProviderScript.provider {}, Credentials.ofPassword "alice" password,
        ⟨none, none, []⟩⟩
    let answer (password : String) :=
      (((client password).call (.begin none)).run ({}, {})).result
    ∃ response response', answer "hunter2" = .ok (.initial response) ∧
      answer "hunter3" = .ok (.initial response') ∧
      response.shown = "PasswordFallback([104, 117, 110, 116, 101, 114, 50, 0])" ∧
      response.shown ≠ response'.shown ∧ response.authData.shown ≠ response'.authData.shown := by
  refine ⟨.passwordFallback (ClearPassword.payload ⟨"hunter2"⟩),
    .passwordFallback (ClearPassword.payload ⟨"hunter3"⟩), rfl, rfl, ?_, ?_, ?_⟩
  all_goals decide +kernel

end Client

end KerberosLogin
