import KerberosLogin.Proofs.CacheLocation
import KerberosLogin.Proofs.Gssapi.CacheUse
import KerberosLogin.StandIn.TicketCache.Mechanism

/-! # What the name of the cache stands for

The name of a cache begins with its type, and a colon ends that; what comes after it is left to
the type. A name without a colon is the path of a file. The mechanism reads the cache for which
the value of the process's variable stands. What is stored goes to the name of the location that
is derived from the value. The two stand for the same cache if the value is the name of a file.
If it is a name of any other type, all of it is taken for a path, under which nothing is read.
-/

namespace KerberosLogin

variable {ω μ η ξ γ : Type}

namespace Gssapi

/-! ## Names -/

/-- What the name of a cache stands for. -/
structure CacheName where
  type : List Char
  /-- What tells the cache from others of its type. -/
  residual : List Char
  deriving DecidableEq

namespace CacheName

/-- The type of caches that are files. -/
def fileType : List Char := "FILE".toList

/-- Reads the name of a cache. -/
def ofText (name : String) : CacheName :=
  match Cut.first? ':' name.toList with
  | some (type, residual) => ⟨type, residual⟩
  | none => ⟨fileType, name.toList⟩

theorem ofText_of_not_mem {name : String} (hname : ':' ∉ name.toList) :
    ofText name = ⟨fileType, name.toList⟩ := by
  rw [ofText, Cut.first?_eq_none_iff.mpr hname]

theorem ofText_scheme_append (path : String) :
    ofText (CacheLocation.scheme ++ path) = ⟨fileType, path.toList⟩ := by
  have hcolon : ':' ∉ fileType := by decide
  have hcut : Cut.first? ':' (CacheLocation.scheme ++ path).toList =
      some (fileType, path.toList) := by
    rw [String.toList_append]
    exact Cut.first?_append hcolon path.toList
  rw [ofText, hcut]

/-- A name with a colon leaves less to its type than the whole of it. -/
theorem residual_ofText_ne {name : String} (hname : ':' ∈ name.toList) :
    (ofText name).residual ≠ name.toList := by
  unfold ofText
  split
  next type residual hcut =>
    intro hwhole
    obtain ⟨happend, -⟩ := Cut.eq_append_of_first? hcut
    have hlength := congrArg List.length happend
    rw [← hwhole, List.length_append, List.length_cons] at hlength
    dsimp only at hlength
    omega
  next hcut => exact absurd hname (Cut.first?_eq_none_iff.mp hcut)

/-- With the scheme before it, a name stands for what it stands for alone just if it has no type
of its own. -/
theorem ofText_scheme_append_eq_iff {name : String} :
    ofText (CacheLocation.scheme ++ name) = ofText name ↔ ':' ∉ name.toList := by
  rw [ofText_scheme_append]
  constructor
  · intro hsame hcolon
    exact residual_ofText_ne hcolon (congrArg residual hsame.symm)
  · intro hcolon
    rw [ofText_of_not_mem hcolon]

/-- Whether a value is the name of a file, with the scheme or without a type. -/
def IsFile (value : String) : Prop :=
  CacheLocation.scheme.toList <+: value.toList ∨ ':' ∉ value.toList

theorem ofText_name_eq_iff {value : String} {location : CacheLocation}
    (hlocation : CacheLocation.ofOverride value = .ok location) :
    ofText location.name = ofText value ↔ IsFile value := by
  rw [CacheLocation.name_of_ofOverride hlocation, IsFile]
  split
  next hscheme => simp [hscheme]
  next hscheme => rw [ofText_scheme_append_eq_iff, or_iff_right hscheme]

end CacheName

namespace Mechanism

/-! ## Where credentials are stored -/

/-- Credentials are stored in the default cache of the process, under the derived name, or
nowhere. -/
theorem store_writes (library : Mechanism ω μ η ξ γ) {processEnv : CacheEnvironment}
    {location : CacheLocation} (hlocation : CacheLocation.ofEnvironment processEnv = .ok location)
    (handle : η) (place : CacheLocation) (calls : List (Call μ η ξ)) (shared : ω) :
    (((library.recorded.source processEnv).store handle place).run (calls, shared)).state.1 =
      if place = location then calls ++ [.storeInto handle location.name] else calls := by
  simp only [source, store, ensureReadable, CacheLocation.locate_of_ok hlocation, bind_assoc,
    pure_bind]
  by_cases hplace : place = location
  · subst hplace
    simp only [if_true]
    rfl
  · simp only [if_neg hplace]
    rfl

/-- Credentials are stored under the name of the location that the value of the process's variable
leads to. That name stands for the same cache as the value, which the mechanism reads, if and
only if the value is the name of a file. With a name of any other type, the whole of it becomes
the path of a file. -/
theorem stored_where_read_iff (library : Mechanism ω μ η ξ γ) {processEnv : CacheEnvironment}
    {value : String} {location : CacheLocation} (hvalue : processEnv.ccacheOverride = some value)
    (hlocation : CacheLocation.ofEnvironment processEnv = .ok location) :
    (∀ handle place shared,
        let outcome := ((library.recorded.source processEnv).store handle place).run ([], shared)
        outcome.unrecorded = ((library.source processEnv).store handle place).run shared ∧
          outcome.state.1 = if place = location then [.storeInto handle location.name] else []) ∧
      (CacheName.ofText location.name = CacheName.ofText value ↔ CacheName.IsFile value) ∧
      (¬ CacheName.IsFile value →
        CacheName.ofText location.name = ⟨CacheName.fileType, value.toList⟩) := by
  have hoverride : CacheLocation.ofOverride value = .ok location := by
    rwa [CacheLocation.ofEnvironment, hvalue] at hlocation
  refine ⟨?_, CacheName.ofText_name_eq_iff hoverride, ?_⟩
  · intro handle place shared
    exact ⟨(source_unnoticed.store handle place).unrecorded_eq [] shared,
      library.store_writes hlocation handle place [] shared⟩
  · intro hfile
    rw [CacheLocation.name_of_ofOverride hoverride, if_neg fun hscheme => hfile (.inl hscheme)]
    exact CacheName.ofText_scheme_append value

/-- A path that looks like the name of a directory stays a path, as the scheme stands before it. -/
theorem stored_in_file_with_colon :
    let env := (CacheEnvironment.forUid 1000).withOverride "FILE:DIR:c"
    let location : CacheLocation := ⟨"DIR:c"⟩
    let library := StandIn.TicketCache.mechanism
    CacheLocation.ofEnvironment env = .ok location ∧
      (∀ handle place host,
        let outcome := ((library.recorded.source env).store handle place).run ([], host)
        outcome.unrecorded = ((library.source env).store handle place).run host ∧
          outcome.state.1 = if place = location then [.storeInto handle location.name] else []) ∧
      CacheName.ofText location.name = CacheName.ofText "FILE:DIR:c" := by
  intro env location library
  have hlocation : CacheLocation.ofEnvironment env = .ok location := by decide
  obtain ⟨hstores, hnames, -⟩ := stored_where_read_iff library rfl hlocation
  exact ⟨hlocation, hstores, hnames.mpr (.inl ⟨"DIR:c".toList, by decide⟩)⟩

/-- A member of a collection is read under its own name. Under that name as a path there is
nothing, not even for what was just read. -/
theorem member_of_collection_not_stored :
    let value := "DIR::$DIR/tktx"
    let env : CacheEnvironment := ⟨some value, none, CacheEnvironment.defaultTempDir⟩
    let location : CacheLocation := ⟨value⟩
    let cache : StandIn.TicketCache.Cache :=
      ⟨⟨["alice"], "EXAMPLE.COM"⟩, [⟨.grantingServer "EXAMPLE.COM", false, false⟩]⟩
    let host : StandIn.TicketCache.Host := ⟨"$DIR", [("tktx", .cache cache)], some value⟩
    let source := StandIn.TicketCache.mechanism.source env
    let storing := do source.store (← source.cached location).handle location
    CacheLocation.ofEnvironment env = .ok location ∧
      CacheName.ofText location.name ≠ CacheName.ofText value ∧
      ((source.cached location).run host).result.map CachedCredential.principal =
        .ok ⟨"alice", some "EXAMPLE.COM"⟩ ∧
      (storing.run host).result = .error ⟨.acquisitionFailure,
        "unable to store credentials into FILE:DIR::$DIR/tktx: no detail"⟩ := by
  refine ⟨?_, ?_, ?_, ?_⟩
  all_goals decide +kernel

end Mechanism

end Gssapi

end KerberosLogin
