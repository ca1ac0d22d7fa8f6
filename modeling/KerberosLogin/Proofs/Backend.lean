import KerberosLogin.Proofs.Handshake.Misuse

/-! # The backends do their part

Whatever the mechanism of GSSAPI and the Negotiate package answer, the providers over them
fail regularly where they are used as they are meant to be, and say when a context is
established. So does a provider that hands its calls on to one of the two. A client over any
of them finds its own guards superfluous.
-/

namespace KerberosLogin

variable {ω ν ν₁ ν₂ κ χ χ₁ χ₂ α : Type}

theorem ContextState.ensureEstablished_of_eq {σ : Type} {state : ContextState}
    (hstate : state = .established) (operation : String) :
    (state.ensureEstablished operation : Action σ ν Unit) = pure () :=
  if_pos hstate

/-- A context that goes by its state knows when it is established. -/
theorem SecurityContext.asked_of_default {operations : SecurityContext ω ν χ}
    (hdefault : operations.isComplete = fun context =>
      (decide (operations.state context.1 = .established), context)) (context : χ) (shared : ω)
    (hstate : operations.state context = .established) :
    ∃ shared', operations.isComplete (context, shared) = (true, context, shared') := by
  refine ⟨shared, ?_⟩
  rw [hdefault]
  dsimp only
  rw [decide_eq_true hstate]

/-! ## GSSAPI -/

namespace Gssapi

variable {μ η ξ γ : Type}

/-- Of each failure of the mechanism it is told what was attempted, and the kind goes by that. -/
theorem Fault.toError_regular {kind : ErrorKind}
    (hkind : kind ≠ .unsupportedMethod ∧ kind ≠ .protocolMisuse) (attempt : String)
    (fault : Fault) : (fault.toError kind attempt).Regular :=
  .of_kind kind rfl hkind

theorem Fault.ofCall_behaves {kind : ErrorKind} {attempt : String}
    (call : LibraryCall ω Fault α) (shared : ω)
    (hkind : kind ≠ .unsupportedMethod ∧ kind ≠ .protocolMisuse := by decide) :
    (Action.ofCall (Fault.toError kind attempt) call : Action ω ν α).Behaves shared
      fun _ _ => True :=
  .ofCall (Fault.toError_regular hkind attempt) call shared

theorem Context.call_behaves {explain : Fault → AuthError}
    (hexplain : ∀ fault, (explain fault).Regular) (request : LibraryCall (γ × ω) Fault α)
    (context : Context γ) (shared : ω) :
    (Context.call explain request).Behaves (context, shared) fun _ reached =>
      reached.1.state = context.state := by
  unfold Action.Behaves Context.call
  dsimp only
  rcases request (context.mechanism, shared) with ⟨fault | value, mechanism, shared'⟩
  · exact hexplain fault
  · rfl

namespace Mechanism

variable (library : Mechanism ω μ η ξ γ) (processEnv : CacheEnvironment)

theorem acquireError_regular (location : CacheLocation) (fault : Fault) :
    (acquireError location fault).Regular := by
  unfold acquireError
  split
  next => exact fault.toError_regular (by decide) _
  next => exact fault.toError_regular (by decide) _

theorem unwrapError_regular (fault : Fault) : (unwrapError fault).Regular := by
  unfold unwrapError
  split
  next => exact fault.toError_regular (by decide) _
  next => exact fault.toError_regular (by decide) _

theorem kerberosSet_behaves (shared : ω) :
    (library.kerberosSet : Action ω ν μ).Behaves shared fun _ _ => True := by
  apply (Fault.ofCall_behaves library.emptySet shared).bind
  intro set reached _
  exact Fault.ofCall_behaves _ reached

theorem ensureReadable_behaves (location : CacheLocation) (shared : ω) :
    (ensureReadable processEnv location).Behaves shared fun _ _ => True := by
  apply (CacheLocation.locate_behaves id processEnv shared).bind
  intro default reached _
  split
  next => exact .pure trivial
  next => exact .fail (.of_kind .configuration rfl)

theorem source_regular : (library.source processEnv).Regular where
  cached location shared := by
    apply (ensureReadable_behaves processEnv location shared).bind
    intro _ readable _
    apply (library.kerberosSet_behaves readable).bind
    intro set chosen _
    apply (Action.Behaves.ofCall (acquireError_regular location) (library.acquire set) chosen).bind
    intro handle acquired _
    apply (Fault.ofCall_behaves (library.inspect handle) acquired).bind
    intro info inspected _
    exact .pure trivial
  acquire principal password shared := by
    apply (Fault.ofCall_behaves (library.importName _) shared).bind
    intro name imported _
    apply (library.kerberosSet_behaves imported).bind
    intro set chosen _
    exact Fault.ofCall_behaves _ chosen
  store handle location shared := by
    apply (ensureReadable_behaves processEnv location shared).bind
    intro _ readable _
    exact Fault.ofCall_behaves _ readable

theorem context_regular : library.context.Regular where
  asked := SecurityContext.asked_of_default rfl
  step input context shared := by
    apply (Context.call_behaves (Fault.toError_regular (by decide) _) (library.step input) context
      shared).bind
    rintro token ⟨stepped, shared'⟩ _
    apply Action.Behaves.get_bind
    apply Action.Behaves.modify_bind
    apply Action.Behaves.pure
    cases hcomplete : library.isComplete stepped.mechanism <;> simp [Mechanism.context]
  unwrap message context shared hstate := by
    have hstate : context.state = .established := hstate
    apply Action.Behaves.get_bind
    dsimp only
    rw [ContextState.ensureEstablished_of_eq hstate, pure_bind]
    apply (Context.call_behaves unwrapError_regular (library.unwrap message) context shared).weaken
    intro plain reached hkept
    exact hkept.trans hstate
  wrap payload encrypt context shared hstate := by
    have hstate : context.state = .established := hstate
    apply Action.Behaves.get_bind
    dsimp only
    rw [ContextState.ensureEstablished_of_eq hstate, pure_bind]
    apply (Context.call_behaves (Fault.toError_regular (by decide) _)
      (library.wrap encrypt payload) context shared).weaken
    intro message reached _
    trivial

theorem provider_regular : (library.provider processEnv).Regular .gssapi where
  embeds := by
    have hcapabilities : (library.provider processEnv).capabilities = Flags.empty := rfl
    rw [hcapabilities]
    decide
  resolve _ request env shared :=
    ((library.source_regular processEnv).resolve env request shared).mapNotes Note.resolving
  initiate target credential requirements htakes shared := by
    have hhandle : ∃ handle, handle? credential = .ok handle := by
      cases credential with
      | resolved handle => exact ⟨some handle, rfl⟩
      | embedded identity => cases htakes
      | default => exact ⟨none, rfl⟩
    obtain ⟨handle, hhandle⟩ := hhandle
    unfold provider initiate
    dsimp only
    rw [hhandle, Action.ofExcept_ok_bind]
    apply (Fault.ofCall_behaves (library.importName _) shared).bind
    intro name imported _
    apply (Fault.ofCall_behaves (library.canonicalize name) imported).bind
    intro name canonical _
    exact .note_bind (.pure trivial)
  context := library.context_regular

end Mechanism

end Gssapi

/-! ## Negotiate -/

namespace Negotiate

variable {υ η ψ : Type}

/-- Of each failure of the package it is told what was attempted, and the kind goes by that. -/
theorem Fault.toError_regular {kind : ErrorKind}
    (hkind : kind ≠ .unsupportedMethod ∧ kind ≠ .protocolMisuse) (attempt : String)
    (fault : Fault) : (fault.toError kind attempt).Regular :=
  .of_kind kind rfl hkind

theorem Fault.ofCall_behaves {kind : ErrorKind} {attempt : String}
    (call : LibraryCall ω Fault α) (shared : ω)
    (hkind : kind ≠ .unsupportedMethod ∧ kind ≠ .protocolMisuse := by decide) :
    (Action.ofCall (Fault.toError kind attempt) call : Action ω ν α).Behaves shared
      fun _ _ => True :=
  .ofCall (Fault.toError_regular hkind attempt) call shared

theorem StepFault.toError_regular (fault : StepFault) : fault.toError.Regular := by
  cases fault with
  | refused fault => exact fault.toError_regular (by decide) _
  | unresolved fault => exact fault.toError_regular (by decide) _

theorem Context.call_behaves {explain : Fault → AuthError}
    (hexplain : ∀ fault, (explain fault).Regular) (request : LibraryCall (ψ × ω) Fault α)
    (context : Context η ψ) (shared : ω) :
    (Context.call explain request).Behaves (context, shared) fun _ reached =>
      reached.1.state = context.state := by
  unfold Action.Behaves Context.call
  dsimp only
  rcases request (context.package, shared) with ⟨fault | value, package, shared'⟩
  · exact hexplain fault
  · rfl

namespace Package

variable (library : Package ω υ η ψ)

theorem unwrapError_regular (fault : Fault) : (unwrapError fault).Regular := by
  unfold unwrapError
  split
  next => exact fault.toError_regular (by decide) _
  next => exact fault.toError_regular (by decide) _

theorem step_behaves (input : Option Bytes) (context : Context η ψ) (shared : ω) :
    (library.step input).Behaves (context, shared) fun output reached =>
      reached.1.state = .established ↔ output.complete = true := by
  rcases hadvance : library.advance context.flags context.target input
    ((context.handle, context.package), shared) with ⟨fault | ⟨status, output⟩, ⟨_, _⟩, _⟩
  · simp only [Action.Behaves, step, hadvance]
    exact fault.toError_regular
  · simp only [Action.Behaves, step, hadvance]
    cases status with
    | done => simp [Status.contextState]
    | continueNeeded => simp [Status.contextState]
    | other name => exact .of_kind .securityContext rfl

theorem context_regular : library.context.Regular where
  asked := SecurityContext.asked_of_default rfl
  step := library.step_behaves
  unwrap message context shared hstate := by
    have hstate : context.state = .established := hstate
    apply Action.Behaves.get_bind
    dsimp only
    rw [ContextState.ensureEstablished_of_eq hstate, pure_bind]
    apply (Context.call_behaves unwrapError_regular _ context shared).bind
    rintro plain ⟨reached, shared'⟩ hkept
    exact .modify_bind (.pure (hkept.trans hstate))
  wrap payload encrypt context shared hstate := by
    have hstate : context.state = .established := hstate
    apply Action.Behaves.get_bind
    dsimp only
    rw [ContextState.ensureEstablished_of_eq hstate, pure_bind]
    apply (Context.call_behaves (Fault.toError_regular (by decide) _) library.trailerSize context
      shared).bind
    rintro size ⟨sized, shared'⟩ _
    apply (Context.call_behaves (Fault.toError_regular (by decide) _) _ sized shared').bind
    rintro ⟨trailer, message⟩ ⟨protected', shared''⟩ _
    exact .modify_bind (.pure trivial)

theorem identity?_behaves (credential : InitiatorCredential Empty) (shared : ω) :
    (library.identity? credential).Behaves shared fun _ _ => True := by
  cases credential with
  | resolved handle => exact handle.elim
  | default => exact .pure trivial
  | embedded identity =>
      apply (Fault.ofCall_behaves (library.username _ _) shared).bind
      intro name named _
      exact .pure trivial

theorem provider_regular : library.provider.Regular .negotiate where
  embeds := by
    have hcapabilities : library.provider.capabilities = Capabilities.embeddedIdentity := rfl
    rw [hcapabilities]
    decide
  resolve hbackend := by cases hbackend
  initiate target credential requirements _ shared := by
    unfold provider initiate
    dsimp only
    apply (Fault.ofCall_behaves library.newClient shared).bind
    intro package created _
    apply (library.identity?_behaves credential created).bind
    intro identity identified _
    have hacquire : ((Action.ofCall
        (Fault.toError .acquisitionFailure "failed to acquire SSPI credentials")
        (library.acquire identity)).withOwn package : Action ω Note _).Behaves identified
          fun _ _ => True :=
      .withOwn (Fault.ofCall_behaves _ _)
    apply hacquire.bind
    intro acquired kept _
    exact .note_bind (.pure trivial)
  context := library.context_regular

end Package

end Negotiate

/-! ## Either of the two -/

namespace Backend

theorem either_behaves_inl {first : Action (χ₁ × ω) ν₁ α} (second : Action (χ₂ × ω) ν₂ α)
    {context : χ₁} {shared : ω} {finish : α → χ₁ × ω → Prop}
    (hfirst : first.Behaves (context, shared) finish) :
    (either first second).Behaves (.inl context, shared) fun value reached =>
      ∃ last, reached.1 = .inl last ∧ finish value (last, reached.2) := by
  unfold Action.Behaves either at *
  rcases hrun : first.run (context, shared) with ⟨error | value, reached, notes⟩
  · rw [hrun] at hfirst
    simpa only [hrun] using hfirst
  · rw [hrun] at hfirst
    simp only [hrun]
    exact ⟨reached.1, rfl, hfirst⟩

theorem either_behaves_inr (first : Action (χ₁ × ω) ν₁ α) {second : Action (χ₂ × ω) ν₂ α}
    {context : χ₂} {shared : ω} {finish : α → χ₂ × ω → Prop}
    (hsecond : second.Behaves (context, shared) finish) :
    (either first second).Behaves (.inr context, shared) fun value reached =>
      ∃ last, reached.1 = .inr last ∧ finish value (last, reached.2) := by
  unfold Action.Behaves either at *
  rcases hrun : second.run (context, shared) with ⟨error | value, reached, notes⟩
  · rw [hrun] at hsecond
    simpa only [hrun] using hsecond
  · rw [hrun] at hsecond
    simp only [hrun]
    exact ⟨reached.1, rfl, hsecond⟩

theorem context_regular {gssapi : SecurityContext ω ν₁ χ₁} {negotiate : SecurityContext ω ν₂ χ₂}
    (hgssapi : gssapi.Regular) (hnegotiate : negotiate.Regular) :
    (context gssapi negotiate).Regular where
  asked := SecurityContext.asked_of_default rfl
  step input := by
    rintro (context | context) shared
    · apply (either_behaves_inl _ (hgssapi.step input context shared)).weaken
      rintro output ⟨_, _⟩ ⟨last, rfl, hstate⟩
      exact hstate
    · apply (either_behaves_inr _ (hnegotiate.step input context shared)).weaken
      rintro output ⟨_, _⟩ ⟨last, rfl, hstate⟩
      exact hstate
  unwrap message := by
    rintro (context | context) shared hstate
    · apply (either_behaves_inl _ (hgssapi.unwrap message context shared hstate)).weaken
      rintro plain ⟨_, _⟩ ⟨last, rfl, hlast⟩
      exact hlast
    · apply (either_behaves_inr _ (hnegotiate.unwrap message context shared hstate)).weaken
      rintro plain ⟨_, _⟩ ⟨last, rfl, hlast⟩
      exact hlast
  wrap payload encrypt := by
    rintro (context | context) shared hstate
    · exact (either_behaves_inl _ (hgssapi.wrap payload encrypt context shared hstate)).weaken
        fun _ _ _ => trivial
    · exact (either_behaves_inr _ (hnegotiate.wrap payload encrypt context shared hstate)).weaken
        fun _ _ _ => trivial

/-- A provider over two that do their part does its part. -/
theorem provider_regular (backend : Backend) {gssapi : SecurityProvider ω ν₁ κ χ₁}
    {negotiate : SecurityProvider ω ν₂ Empty χ₂} (hgssapi : gssapi.Regular .gssapi)
    (hnegotiate : negotiate.Regular .negotiate) :
    (backend.provider gssapi negotiate).Regular backend where
  embeds := by
    cases backend with
    | gssapi => exact hgssapi.embeds
    | negotiate => exact hnegotiate.embeds
  resolve hbackend request env shared := by
    subst hbackend
    exact (hgssapi.resolve rfl request env shared).mapNotes Sum.inl
  initiate target credential requirements htakes shared := by
    cases backend with
    | gssapi =>
        have hinitiate := hgssapi.initiate target credential requirements htakes shared
        exact .map (hinitiate.mapNotes Sum.inl)
    | negotiate =>
        unfold provider
        dsimp only
        cases credential with
        | resolved handle => cases htakes
        | embedded identity =>
            have hinitiate :=
              hnegotiate.initiate target (.embedded identity) requirements rfl shared
            rw [negotiateCredential, Action.ofExcept_ok_bind]
            exact .map (hinitiate.mapNotes Sum.inr)
        | default =>
            have hinitiate := hnegotiate.initiate target .default requirements trivial shared
            rw [negotiateCredential, Action.ofExcept_ok_bind]
            exact .map (hinitiate.mapNotes Sum.inr)
  context := context_regular hgssapi.context hnegotiate.context

end Backend

/-- With the library's own providers, and whatever the libraries below them answer, no call
fails because something is not supported, and none fails because it is out of order, unless it
is: in the state `established` the context itself is established. Negotiate is never asked to
resolve credentials and is never given resolved ones; GSSAPI is never given an identity as it
is. It makes no difference whether a provider is used directly or through the choice of a
backend. -/
theorem Client.backends_used_well {μ η ξ γ υ θ ψ : Type} (library : Gssapi.Mechanism ω μ η ξ γ)
    (processEnv : CacheEnvironment) (package : Negotiate.Package ω υ θ ψ)
    (credentials : Credentials) (env : CacheEnvironment) (calls : List Call) (shared : ω) :
    UsesWell .gssapi ⟨library.provider processEnv, credentials, env⟩ calls shared ∧
      UsesWell .negotiate ⟨package.provider, credentials, env⟩ calls shared ∧
      ∀ backend : Backend, UsesWell backend
        ⟨backend.provider (library.provider processEnv) package.provider, credentials, env⟩
        calls shared := by
  have hgssapi := library.provider_regular processEnv
  have hnegotiate := package.provider_regular
  refine ⟨usesWell hgssapi calls shared, usesWell hnegotiate calls shared, ?_⟩
  intro backend
  exact usesWell (backend.provider_regular hgssapi hnegotiate) calls shared

end KerberosLogin
