import KerberosLogin.Proofs.Resolver.Course

/-! # The calls to a source

Whatever a source answers, a resolution reads one cache, acquires at most once, and stores
at most once: what it has just acquired, in the place where it has read.
-/

namespace KerberosLogin

variable {ω ν η : Type}

/-- Calls that are the beginning of: read the cache, acquire, store there. -/
inductive SourceCall.InOrder (location : CacheLocation) : List (SourceCall η) → Prop where
  | read : InOrder location [.cached location]
  | acquired (principal : Principal) (password : Password) :
      InOrder location [.cached location, .acquire principal password]
  | stored (principal : Principal) (password : Password) (handle : η) :
      InOrder location [.cached location, .acquire principal password, .store handle location]

namespace CredentialSource

variable {env : CacheEnvironment} {request : IdentityRequest} {location : CacheLocation}
  {principal : Principal} {password : Password} {events : List (SourceEvent η)}
  {warnings : List LogRecord} {result : Except AuthError (ResolvedCredentials η)}

/-- What a resolution asks of its source, given its result. -/
structure UsesSource (env : CacheEnvironment) (request : IdentityRequest)
    (events : List (SourceEvent η)) (result : Except AuthError (ResolvedCredentials η)) :
    Prop where
  unlocated : ∀ fault, CacheLocation.ofEnvironment env = .error fault → events = []
  calls : ∀ location, CacheLocation.ofEnvironment env = .ok location →
    SourceCall.InOrder location (events.map SourceEvent.call)
  acquire : ∀ principal password answer, .acquire principal password answer ∈ events →
    request.password = some password ∧ ∃ location read, Warrants request read principal ∧
      [.cached location read, .acquire principal password answer] <+: events
  store : ∀ handle location answer, .store handle location answer ∈ events →
    ∃ read principal password, events =
      [.cached location read, .acquire principal password (.ok handle),
        .store handle location answer]
  reacquired_iff : (∃ resolved, result = .ok resolved ∧ resolved.reacquired = true) ↔
    (∃ principal password handle, .acquire principal password (.ok handle) ∈ events) ∧
      ∃ handle location, .store handle location (.ok ()) ∈ events
  reacquired : ∀ resolved, result = .ok resolved → resolved.reacquired = true →
    ∃ location read password, events =
      [.cached location read, .acquire resolved.principal password (.ok resolved.handle),
        .store resolved.handle location (.ok ())]
  unstored : (∀ resolved, result = .ok resolved → resolved.reacquired = false) →
    ∀ handle location, .store handle location (.ok ()) ∉ events

namespace Reacquisition

theorem acquire_eq (hreacquisition : Reacquisition location principal password events result)
    {principal' : Principal} {password' : Password} {answer : Except AuthError η}
    (hmem : .acquire principal' password' answer ∈ events) :
    principal' = principal ∧ password' = password ∧
      [.acquire principal password answer] <+: events := by
  cases hreacquisition with
  | refused | unstored | stored =>
      simp only [List.mem_cons, SourceEvent.acquire.injEq, reduceCtorEq, List.not_mem_nil,
        or_false] at hmem
      obtain ⟨rfl, rfl, rfl⟩ := hmem
      exact ⟨rfl, rfl, _, rfl⟩

theorem store_eq (hreacquisition : Reacquisition location principal password events result)
    {handle : η} {location' : CacheLocation} {answer : Except AuthError Unit}
    (hmem : .store handle location' answer ∈ events) :
    location' = location ∧
      events = [.acquire principal password (.ok handle), .store handle location answer] := by
  cases hreacquisition with
  | refused => simp at hmem
  | unstored | stored =>
      simp only [List.mem_cons, SourceEvent.store.injEq, reduceCtorEq, List.not_mem_nil,
        or_false, false_or] at hmem
      obtain ⟨rfl, rfl, rfl⟩ := hmem
      exact ⟨rfl, rfl⟩

theorem result_eq_ok_iff (hreacquisition : Reacquisition location principal password events result)
    {resolved : ResolvedCredentials η} :
    result = .ok resolved ↔ resolved.principal = principal ∧ resolved.reacquired = true ∧
      events = [.acquire principal password (.ok resolved.handle),
        .store resolved.handle location (.ok ())] := by
  obtain ⟨handle, principal', reacquired⟩ := resolved
  cases hreacquisition with
  | refused | unstored => simp
  | stored handle' =>
      simp only [Except.ok.injEq, ResolvedCredentials.mk.injEq, List.cons.injEq,
        SourceEvent.acquire.injEq, SourceEvent.store.injEq, true_and, and_true]
      constructor
      · rintro ⟨rfl, rfl, rfl⟩
        exact ⟨rfl, rfl, rfl, rfl⟩
      · rintro ⟨rfl, rfl, rfl, -⟩
        exact ⟨rfl, rfl, rfl⟩

theorem inOrder (hreacquisition : Reacquisition location principal password events result) :
    SourceCall.InOrder location (.cached location :: events.map SourceEvent.call) := by
  cases hreacquisition with
  | refused => exact .acquired principal password
  | unstored handle | stored handle => exact .stored principal password handle

end Reacquisition

/-- Nothing is read, or the cache is read and no more, or credentials are acquired. -/
theorem Resolution.unread_or_read_or_reacquired
    (hresolution : Resolution env request events warnings result) :
    (∃ fault, CacheLocation.ofEnvironment env = .error fault ∧ events = [] ∧
        result = .error fault.toError) ∨
      (∃ location answer, CacheLocation.ofEnvironment env = .ok location ∧
        events = [.cached location answer] ∧
        ∀ resolved, result = .ok resolved → resolved.reacquired = false) ∨
      ∃ location answer principal password later,
        CacheLocation.ofEnvironment env = .ok location ∧ request.password = some password ∧
        Warrants request answer principal ∧ events = .cached location answer :: later ∧
        Reacquisition location principal password later result := by
  cases hresolution with
  | unlocated hlocation => exact .inl ⟨_, hlocation, rfl, rfl⟩
  | unreadable hlocation | unrepaired hlocation | expired hlocation =>
      exact .inr (.inl ⟨_, _, hlocation, rfl, nofun⟩)
  | differing hlocation | suitable hlocation =>
      refine .inr (.inl ⟨_, _, hlocation, rfl, ?_⟩)
      rintro _ ⟨⟩
      rfl
  | reacquired hlocation hpassword hwarrants hreacquisition =>
      exact .inr (.inr ⟨_, _, _, _, _, hlocation, hpassword, hwarrants, rfl, hreacquisition⟩)

theorem Resolution.usesSource (hresolution : Resolution env request events warnings result) :
    UsesSource env request events result := by
  rcases hresolution.unread_or_read_or_reacquired with
    ⟨fault, hlocation, rfl, rfl⟩ | ⟨location, answer, hlocation, rfl, hcached⟩ |
    ⟨location, answer, principal, password, later, hlocation, hpassword, hwarrants, rfl,
      hreacquisition⟩
  · constructor <;> simp [hlocation]
  · constructor
    case unlocated => simp [hlocation]
    case calls =>
      intro location' hlocation'
      obtain rfl := Except.ok.inj (hlocation.symm.trans hlocation')
      exact .read
    case acquire => simp
    case store => simp
    case reacquired_iff =>
      simp only [List.mem_singleton, reduceCtorEq, exists_false, and_false, iff_false, not_exists,
        not_and, Bool.not_eq_true]
      exact hcached
    case reacquired =>
      intro resolved hresult hreacquired
      rw [hcached resolved hresult] at hreacquired
      cases hreacquired
    case unstored => simp
  · constructor
    case unlocated => simp [hlocation]
    case calls =>
      intro location' hlocation'
      obtain rfl := Except.ok.inj (hlocation.symm.trans hlocation')
      exact hreacquisition.inOrder
    case acquire =>
      intro principal' password' answer' hmem
      obtain ⟨rfl, rfl, hprefix⟩ := hreacquisition.acquire_eq (by simpa using hmem)
      exact ⟨hpassword, location, answer, hwarrants, (List.prefix_cons_inj _).mpr hprefix⟩
    case store =>
      intro handle location' answer' hmem
      obtain ⟨rfl, rfl⟩ := hreacquisition.store_eq (by simpa using hmem)
      exact ⟨answer, principal, password, rfl⟩
    case reacquired_iff =>
      constructor
      · rintro ⟨resolved, hresult, -⟩
        obtain ⟨-, -, rfl⟩ := hreacquisition.result_eq_ok_iff.mp hresult
        exact ⟨⟨principal, password, resolved.handle, by simp⟩, resolved.handle, location, by simp⟩
      · rintro ⟨-, handle, location', hmem⟩
        obtain ⟨-, rfl⟩ := hreacquisition.store_eq (by simpa using hmem)
        exact ⟨⟨handle, principal, true⟩,
          hreacquisition.result_eq_ok_iff.mpr ⟨rfl, rfl, rfl⟩, rfl⟩
    case reacquired =>
      intro resolved hresult _
      obtain ⟨rfl, -, rfl⟩ := hreacquisition.result_eq_ok_iff.mp hresult
      exact ⟨location, answer, password, rfl⟩
    case unstored =>
      intro hcached handle location' hmem
      obtain ⟨-, rfl⟩ := hreacquisition.store_eq (by simpa using hmem)
      have hresult : result = .ok ⟨handle, principal, true⟩ :=
        hreacquisition.result_eq_ok_iff.mpr ⟨rfl, rfl, rfl⟩
      cases hcached _ hresult

/-- What a resolution asks of its source, whatever the source answers. The one cache that
the environment names is read. Credentials are acquired at most once, with the password of
the request, for a principal that the answer of the cache warrants; they are stored where
the cache was read, directly after they have been acquired. The result is marked as
reacquired if and only if both have succeeded, and nothing is stored otherwise. -/
theorem resolve_uses_source (source : CredentialSource ω ν η) (env : CacheEnvironment)
    (request : IdentityRequest) (shared : ω) :
    (source.course env request shared).unrecorded = (source.resolve env request).run shared ∧
      UsesSource env request (source.course env request shared).state.1
        (source.course env request shared).result :=
  ⟨source.unrecorded_course env request shared,
    (source.resolution env request shared).usesSource⟩

end CredentialSource

end KerberosLogin
