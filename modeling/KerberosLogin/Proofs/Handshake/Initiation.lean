import KerberosLogin.Proofs.Challenge
import KerberosLogin.Proofs.Handshake.Effect
import KerberosLogin.StandIn.Scripted

/-! # What a context is initiated with

A provider that takes identities as they are is given the caller's own identity, or is left
to its default, and is never asked to resolve any. Any other provider is asked to resolve
one request, made of what the caller has set and of the realm that the server has named,
and gets back the handle that it has answered with.
-/

namespace KerberosLogin

variable {ω ν κ χ : Type}

namespace ProviderEvent

/-- The arguments with which a context was initiated. -/
def initiate? : ProviderEvent κ → Option (String × InitiatorCredential κ × Requirements)
  | initiate target credential requirements _ => some (target, credential, requirements)
  | _ => none

/-- The request that was to be resolved, the environment for it, and the answer. -/
def resolve? : ProviderEvent κ →
    Option (IdentityRequest × CacheEnvironment × Except AuthError (ResolvedCredentials κ))
  | resolve request env answer => some (request, env, answer)
  | _ => none

end ProviderEvent

open ProviderEvent (initiate? resolve?)

/-- The realm that a challenge names. -/
def Challenge.namedRealm (challenge : Challenge) : Option String :=
  if challenge.realm = "" then none else some challenge.realm

theorem Challenge.realm?_eq_namedRealm (challenge : Challenge) :
    challenge.realm? = challenge.namedRealm := by
  simp only [realm?, namedRealm, String.isEmpty_iff]

/-- Whether an identity is made of credentials that have both a user and a password, neither
of them empty. -/
structure EmbeddedIdentity.MadeOf (identity : EmbeddedIdentity) (credentials : Credentials)
    (realm : Option String) : Prop where
  user : credentials.username = some identity.user
  password : credentials.password = some identity.password
  user_ne_empty : identity.user ≠ ""
  password_ne_empty : identity.password.expose ≠ ""
  realm : identity.realm = realm

namespace Client

variable {client : Client ω ν κ χ} {challenge : Challenge} {events : List (ProviderEvent κ)}

/-- The request that a client makes of its credentials as they are. -/
def wholeRequest (client : Client ω ν κ χ) (challenge : Challenge) : IdentityRequest where
  username := client.credentials.username
  realm := challenge.namedRealm
  password := client.credentials.password

/-- How a credential was come by, given what the provider was asked to resolve. -/
structure Chosen (client : Client ω ν κ χ) (challenge : Challenge)
    (resolutions : List
      (IdentityRequest × CacheEnvironment × Except AuthError (ResolvedCredentials κ)))
    (credential : InitiatorCredential κ) : Prop where
  embedded : client.embeds = true → ∀ identity, credential = .embedded identity ↔
    identity.MadeOf client.credentials challenge.namedRealm
  default : client.embeds = true → (credential = .default ↔
    ∀ identity : EmbeddedIdentity, ¬ identity.MadeOf client.credentials challenge.namedRealm)
  unasked : client.embeds = true → resolutions = []
  resolved : client.embeds = false → ∃ answer,
    resolutions = [(client.wholeRequest challenge, client.environment, .ok answer)] ∧
      credential = .resolved answer.handle

/-- How far a first call gets with its provider: to a context that is initiated once, or to
an identity that cannot be resolved. -/
inductive Approach (client : Client ω ν κ χ) (challenge : Challenge)
    (events : List (ProviderEvent κ)) : Prop where
  | initiated (credential : InitiatorCredential κ)
      (honce : events.filterMap initiate? =
        [(challenge.servicePrincipal, credential, Requirements.handshake)])
      (hchosen : client.Chosen challenge (events.filterMap resolve?) credential)
  | unresolved {error : AuthError} (hembeds : client.embeds = false)
      (hresolved : events.filterMap resolve? =
        [(client.wholeRequest challenge, client.environment, .error error)])
      (hnever : events.filterMap initiate? = [])

/-! ## The credential -/

theorem request_eq_wholeRequest : client.request challenge = client.wholeRequest challenge := by
  rw [request, wholeRequest, Challenge.realm?_eq_namedRealm]

theorem explicitIdentity?_eq_some_iff {identity : EmbeddedIdentity} :
    client.explicitIdentity? challenge = some identity ↔
      identity.MadeOf client.credentials challenge.namedRealm := by
  obtain ⟨user', realm', password'⟩ := identity
  rw [explicitIdentity?, Challenge.realm?_eq_namedRealm]
  constructor
  · intro hidentity
    split at hidentity
    next user password huser hpassword =>
      split at hidentity
      next => cases hidentity
      next hfilled =>
        simp only [Bool.or_eq_true, String.isEmpty_iff, not_or] at hfilled
        cases hidentity
        exact ⟨huser, hpassword, hfilled.1, hfilled.2, rfl⟩
    next => cases hidentity
  · rintro ⟨huser, hpassword, hfilled, hfilled', rfl⟩
    dsimp only at huser hpassword hfilled hfilled'
    simp [huser, hpassword, hfilled, hfilled']

theorem ownCredential_eq_embedded_iff {identity : EmbeddedIdentity} :
    (client.ownCredential challenge : InitiatorCredential κ) = .embedded identity ↔
      identity.MadeOf client.credentials challenge.namedRealm := by
  rw [← explicitIdentity?_eq_some_iff, ownCredential]
  cases client.explicitIdentity? challenge with
  | none => simp
  | some identity => simp

theorem ownCredential_eq_default_iff :
    (client.ownCredential challenge : InitiatorCredential κ) = .default ↔
      ∀ identity : EmbeddedIdentity,
        ¬ identity.MadeOf client.credentials challenge.namedRealm := by
  simp only [← explicitIdentity?_eq_some_iff, ← Option.eq_none_iff_forall_ne_some, ownCredential]
  cases client.explicitIdentity? challenge with
  | none => simp
  | some identity => simp

/-! ## The calls -/

theorem Selection.filterMap_initiate? {answer : Except AuthError (InitiatorCredential κ)}
    (hselection : client.Selection challenge events answer) :
    events.filterMap initiate? = [] := by
  cases hselection with
  | own => rfl
  | resolved => rfl

theorem Selection.chosen {credential : InitiatorCredential κ}
    (hselection : client.Selection challenge events (.ok credential)) :
    client.Chosen challenge (events.filterMap resolve?) credential := by
  generalize hanswer : Except.ok credential = result at hselection
  cases hselection with
  | own hembeds =>
      obtain rfl := Except.ok.inj hanswer
      have hresolves : client.embeds ≠ false := by simp [hembeds]
      exact ⟨fun _ _ => ownCredential_eq_embedded_iff, fun _ => ownCredential_eq_default_iff,
        fun _ => rfl, fun hembeds => absurd hembeds hresolves⟩
  | resolved hembeds answer =>
      have hresolves : client.embeds ≠ true := by simp [hembeds]
      cases answer with
      | error error => cases hanswer
      | ok resolved =>
          obtain rfl := Except.ok.inj hanswer
          refine ⟨fun hembeds => absurd hembeds hresolves, fun hembeds => absurd hembeds hresolves,
            fun hembeds => absurd hembeds hresolves, fun _ => ⟨resolved, ?_, rfl⟩⟩
          rw [← request_eq_wholeRequest]
          rfl

theorem Selection.unresolved {error : AuthError}
    (hselection : client.Selection challenge events (.error error)) :
    client.embeds = false ∧ events.filterMap resolve? =
      [(client.wholeRequest challenge, client.environment, .error error)] := by
  generalize hanswer : Except.error error = result at hselection
  cases hselection with
  | own => cases hanswer
  | resolved hembeds answer =>
      cases answer with
      | error error =>
          obtain rfl := Except.error.inj hanswer
          rw [← request_eq_wholeRequest]
          exact ⟨hembeds, rfl⟩
      | ok => cases hanswer

theorem Selection.approach {credential : InitiatorCredential κ} {answer : Except AuthError Unit}
    {later : List (ProviderEvent κ)}
    (hselection : client.Selection challenge events (.ok credential))
    (hinitiate : later.filterMap initiate? = []) (hresolve : later.filterMap resolve? = []) :
    client.Approach challenge (events ++
      .initiate challenge.servicePrincipal credential Requirements.handshake answer :: later) := by
  apply Approach.initiated credential
  · rw [List.filterMap_append, hselection.filterMap_initiate?, List.nil_append,
      List.filterMap_cons, hinitiate]
    rfl
  · rw [List.filterMap_append, List.filterMap_cons_none rfl, hresolve, List.append_nil]
    exact hselection.chosen

theorem Opening.approach {answer : Except AuthError StepOutput}
    (hopening : client.Opening challenge events answer) : client.Approach challenge events := by
  cases hopening with
  | unselected hselection =>
      obtain ⟨hembeds, hresolved⟩ := hselection.unresolved
      exact .unresolved hembeds hresolved hselection.filterMap_initiate?
  | uninitiated hselection error => exact hselection.approach rfl rfl
  | stepped hselection answer => exact hselection.approach rfl rfl

theorem Effect.exists_opening {initial : Option Bytes} {exchange reached : Exchange χ}
    {result : Except AuthError Answer}
    (hpacket : Challenge.decodeOptional initial = .ok (some challenge))
    (heffect : client.Effect exchange (.begin initial) events result reached) :
    ∃ answer, client.Opening challenge events answer := by
  cases heffect with
  | unreadable hpacket' => cases hpacket.symm.trans hpacket'
  | withoutPassword hpacket' => cases hpacket.symm.trans hpacket'
  | fellBack hpacket' => cases hpacket.symm.trans hpacket'
  | unopened hpacket' hopening =>
      cases hpacket.symm.trans hpacket'
      exact ⟨_, hopening⟩
  | opened hpacket' hopening =>
      cases hpacket.symm.trans hpacket'
      exact ⟨_, hopening⟩

/-- A first call that initiates a context does so once, for the principal and with all that
a login asks for. The credential is the caller's identity or the default one where the
provider takes identities as they are, and else what the provider has resolved. -/
theorem initiated_as_supplied (client : Client ω ν κ χ) {packet : Bytes} {challenge : Challenge}
    (hpacket : Challenge.decode packet = .ok challenge)
    (hprincipal : challenge.servicePrincipal ≠ "") (exchange : Exchange χ)
    (trace : List (ProviderEvent κ)) (shared : ω) :
    let outcome := (client.watched.call (.begin (some packet))).run (exchange, trace, shared)
    unwatched outcome = (client.call (.begin (some packet))).run (exchange, shared) ∧
      ∃ events, written outcome.state = trace ++ events ∧
        (exchange.state ≠ .start → events = []) ∧
        (exchange.state = .start → client.Approach challenge events) := by
  refine ⟨client.unwatched_call _ exchange trace shared, ?_⟩
  by_cases hstate : exchange.state = .start
  · have hread := Challenge.decodeOptional_eq_some_iff.mpr ⟨packet, rfl, hpacket, hprincipal⟩
    have hvisit : ∃ events, client.Settled
        (client.watched.visit (.begin (some packet)) (exchange, trace, shared)) events :=
      client.visit_settled hstate (absurd rfl)
    obtain ⟨events, hsettled⟩ := hvisit
    obtain ⟨answer, hopening⟩ := hsettled.effect.exists_opening hread
    exact ⟨events, hsettled.written, absurd hstate, fun _ => hopening.approach⟩
  · refine ⟨[], ?_, fun _ => rfl, fun hstart => absurd hstart hstate⟩
    rw [client.watched.run_call_of_refused hstate, List.append_nil]
    rfl

/-- A provider with the capability beside one that has no name, and a challenge without
realm. -/
theorem identity_initiated_without_realm :
    let client : Client _ _ _ _ := ⟨StandIn.ProviderScript.provider { capabilities := some ⟨5⟩ },
      ⟨some "alice", some ⟨"s"⟩⟩, ⟨none, none, []⟩⟩
    let outcome := (client.watched.call (.begin (some [1, 0, 115, 0, 0]))).run ({}, [], {})
    Challenge.decode [1, 0, 115, 0, 0] = .ok ⟨"s", ""⟩ ∧ "s" ≠ "" ∧ client.embeds = true ∧
      unwatched outcome = (client.call (.begin (some [1, 0, 115, 0, 0]))).run ({}, {}) ∧
      (∃ events, written outcome.state = events ∧ client.Approach ⟨"s", ""⟩ events) ∧
      (written outcome.state).filterMap initiate? =
        [("s", .embedded ⟨"alice", none, ⟨"s"⟩⟩, Requirements.handshake)] := by
  have hdecode : Challenge.decode [1, 0, 115, 0, 0] = .ok ⟨"s", ""⟩ :=
    Challenge.decode_eq_ok_iff.mpr (by rfl)
  have hprincipal : "s" ≠ "" := by decide
  obtain ⟨hwatched, events, hwritten, -, happroach⟩ := initiated_as_supplied
    ⟨StandIn.ProviderScript.provider { capabilities := some ⟨5⟩ }, ⟨some "alice", some ⟨"s"⟩⟩,
      ⟨none, none, []⟩⟩ hdecode hprincipal {} [] {}
  exact ⟨hdecode, hprincipal, rfl, hwatched, ⟨events, hwritten, happroach rfl⟩, by decide +kernel⟩

end Client

end KerberosLogin
