import KerberosLogin.CacheLocation
import KerberosLogin.Proofs.Text.Shown
import KerberosLogin.Proofs.Text.Utf8.Lossy

/-! # Naming the cache

A cache is named by its path behind the scheme of files. As the scheme is taken away once, the
name of a place leads back to the place in every environment; the path alone does so unless it
looks like a name itself. Of the three things that a place can depend on, one decides and the
others are not looked at.
-/

namespace KerberosLogin

namespace CacheLocation

/-! ## Names -/

theorem stripScheme_append (path : List Char) : stripScheme (scheme.toList ++ path) = path := rfl

theorem stripScheme_of_not_isPrefix {text : List Char} (htext : ¬ scheme.toList <+: text) :
    stripScheme text = text := by
  unfold stripScheme
  split
  next path => exact absurd ⟨path, rfl⟩ htext
  next => rfl

theorem stripScheme_eq_nil_iff {text : List Char} :
    stripScheme text = [] ↔ text = [] ∨ text = scheme.toList := by
  by_cases htext : scheme.toList <+: text
  · obtain ⟨path, rfl⟩ := htext
    rw [stripScheme_append]
    constructor
    · rintro rfl
      exact .inr rfl
    · rintro (hempty | hscheme)
      · cases hempty
      · exact List.append_right_eq_self.mp hscheme
  · rw [stripScheme_of_not_isPrefix htext]
    constructor
    · exact .inl
    · rintro (hempty | rfl)
      · exact hempty
      · exact absurd List.prefix_rfl htext

theorem eq_stripScheme_iff {text : List Char} :
    text = stripScheme text ↔ ¬ scheme.toList <+: text := by
  constructor
  · rintro htext ⟨path, rfl⟩
    have hlength := congrArg List.length htext
    rw [stripScheme_append, List.length_append] at hlength
    simp [scheme] at hlength
  · exact fun htext => (stripScheme_of_not_isPrefix htext).symm

/-- An override names the place whose path is left when the scheme is taken away once. -/
theorem ofOverride_eq_ok_iff {value : String} {location : CacheLocation} :
    ofOverride value = .ok location ↔
      location.path ≠ "" ∧ location.path.toList = stripScheme value.toList := by
  obtain ⟨path⟩ := location
  have hpath : String.ofList (stripScheme value.toList) = path ↔
      path.toList = stripScheme value.toList := by
    rw [← String.toList_inj, String.toList_ofList, eq_comm]
  unfold ofOverride
  split
  next hempty =>
    rw [String.isEmpty_iff] at hempty
    subst hempty
    simp [stripScheme]
  next =>
    dsimp only
    split
    next hnone =>
      rw [List.isEmpty_iff] at hnone
      simp [hnone]
    next hsome =>
      have hfilled : path.toList = stripScheme value.toList → path ≠ "" := by
        rintro hread rfl
        simp [← hread] at hsome
      simp only [Except.ok.injEq, mk.injEq, hpath]
      exact ⟨fun hread => ⟨hfilled hread, hread⟩, And.right⟩

theorem ofOverride_eq_error_iff {value : String} :
    (∃ fault, ofOverride value = .error fault) ↔ value = "" ∨ value = scheme := by
  have hlist : value = "" ∨ value = scheme ↔ stripScheme value.toList = [] := by
    rw [stripScheme_eq_nil_iff, String.toList_eq_nil_iff, String.toList_inj]
  rw [hlist]
  unfold ofOverride
  split
  next hempty =>
    rw [String.isEmpty_iff] at hempty
    subst hempty
    simp [stripScheme]
  next =>
    dsimp only
    split <;> simp_all

/-- The name of the place that an override names is the override, with the scheme added unless
it is there. -/
theorem name_of_ofOverride {value : String} {location : CacheLocation}
    (hlocation : ofOverride value = .ok location) :
    location.name = if scheme.toList <+: value.toList then value else scheme ++ value := by
  obtain ⟨-, hpath⟩ := ofOverride_eq_ok_iff.mp hlocation
  apply String.toList_injective
  rw [name, String.toList_append, hpath]
  split
  next hscheme =>
    obtain ⟨path, hvalue⟩ := hscheme
    rw [← hvalue, stripScheme_append]
  next hscheme => rw [stripScheme_of_not_isPrefix hscheme, String.toList_append]

/-! ## Places without an override -/

theorem toList_path_ofUid (uid : UInt32) :
    (ofUid uid).path.toList = "/tmp/krb5cc_".toList ++ Nat.toDigits 10 uid.toNat := by
  simp [ofUid, Nat.repr]

theorem ofUid_injective : Function.Injective ofUid := by
  intro uid uid' hsame
  have hpaths := congrArg (fun location => location.path.toList) hsame
  simp only [toList_path_ofUid] at hpaths
  have hdigits := Shown.toDigits_injective (by decide) (by decide)
    (List.append_cancel_left hpaths)
  exact UInt32.toNat_inj.mp hdigits

/-- The place in a directory ends in the name of the file, whatever the directory. -/
theorem exists_path_ofTempDir (dir : Bytes) :
    ∃ before, (ofTempDir dir).path = before ++ "krb5cc" := by
  have hjoined : ∃ before, joinPath dir (Utf8.encode "krb5cc") =
      before ++ Utf8.encode "krb5cc" := by
    unfold joinPath
    dsimp only
    split
    next => exact ⟨dir, rfl⟩
    next => exact ⟨dir ++ Utf8.encode "/", rfl⟩
  obtain ⟨before, hjoined⟩ := hjoined
  refine ⟨Utf8.decodeLossy before, ?_⟩
  rw [ofTempDir, hjoined]
  exact Utf8.decodeLossy_append_encode (by decide) rfl before

/-- The one path ends in a digit and the other in a letter. -/
theorem ofUid_ne_ofTempDir (uid : UInt32) (dir : Bytes) : ofUid uid ≠ ofTempDir dir := by
  intro hsame
  obtain ⟨before, hpath⟩ := exists_path_ofTempDir dir
  have hpaths := congrArg (fun location => location.path.toList.getLast?) hsame
  simp only [toList_path_ofUid, hpath, String.toList_append, List.getLast?_append] at hpaths
  have hletter : (Nat.toDigits 10 uid.toNat).getLast? = some 'c' := by
    cases hlast : (Nat.toDigits 10 uid.toNat).getLast? with
    | none => exact absurd (List.getLast?_eq_none_iff.mp hlast) Nat.toDigits_ne_nil
    | some digit =>
        rw [hlast] at hpaths
        exact hpaths
  exact Shown.not_mem_toDigits (by decide) (by decide) _ (List.mem_of_getLast? hletter)

theorem path_ne_empty {env : CacheEnvironment} {location : CacheLocation}
    (hlocation : ofEnvironment env = .ok location) : location.path ≠ "" := by
  unfold ofEnvironment at hlocation
  split at hlocation
  next value _ _ => exact (ofOverride_eq_ok_iff.mp hlocation).1
  next uid _ _ =>
    cases hlocation
    simp [ofUid]
  next =>
    cases hlocation
    obtain ⟨before, hpath⟩ := exists_path_ofTempDir env.tempDir
    simp [hpath]

/-! ## Deriving the place -/

/-- The place of the cache in an environment, or the error that a caller is given. -/
def derived (env : CacheEnvironment) : Except AuthError CacheLocation :=
  (ofEnvironment env).mapError Fault.toError

theorem result_locate {σ ν : Type} (entry : CacheLocation → ν) (env : CacheEnvironment)
    (state : σ) : ((locate entry env).run state).result = derived env := by
  unfold locate derived
  cases ofEnvironment env <;> rfl

theorem derived_eq_ok_iff {env : CacheEnvironment} {location : CacheLocation} :
    derived env = .ok location ↔ ofEnvironment env = .ok location := by
  unfold derived
  cases ofEnvironment env <;> simp [Except.mapError]

theorem derived_eq_error_iff {env : CacheEnvironment} {error : AuthError} :
    derived env = .error error ↔
      ∃ fault, ofEnvironment env = .error fault ∧ fault.toError = error := by
  unfold derived
  cases ofEnvironment env <;> simp [Except.mapError]

theorem exists_fault_iff {env : CacheEnvironment} :
    (∃ fault, ofEnvironment env = .error fault) ↔
      env.ccacheOverride = some "" ∨ env.ccacheOverride = some scheme := by
  obtain ⟨_ | value, uid, tempDir⟩ := env
  · cases uid <;> simp [ofEnvironment]
  · simpa [ofEnvironment] using ofOverride_eq_error_iff

/-- Why an environment gives no place, and the error for that. -/
inductive Unlocated (env : CacheEnvironment) : AuthError → Prop where
  | emptyOverride (hoverride : env.ccacheOverride = some "") : Unlocated env
      ⟨.configuration, "the 'KRB5CCNAME' environment variable is set to empty"⟩
  | namesNoFile (hoverride : env.ccacheOverride = some "FILE:") : Unlocated env
      ⟨.configuration, "the 'KRB5CCNAME' environment variable names no file"⟩

theorem unlocated_of_fault {env : CacheEnvironment} {fault : Fault}
    (hlocation : ofEnvironment env = .error fault) : Unlocated env fault.toError := by
  rcases exists_fault_iff.mp ⟨fault, hlocation⟩ with hoverride | hoverride
  · rw [ofEnvironment, hoverride] at hlocation
    cases hlocation
    exact .emptyOverride hoverride
  · rw [ofEnvironment, hoverride] at hlocation
    cases hlocation
    exact .namesNoFile hoverride

/-- The place cannot be derived exactly if the override names nothing. -/
theorem derived_eq_error_iff_unlocated {env : CacheEnvironment} {error : AuthError} :
    derived env = .error error ↔ Unlocated env error := by
  rw [derived_eq_error_iff]
  constructor
  · rintro ⟨fault, hlocation, rfl⟩
    exact unlocated_of_fault hlocation
  · rintro (hoverride | hoverride)
    · exact ⟨.emptyOverride, by rw [ofEnvironment, hoverride]; rfl, rfl⟩
    · exact ⟨.namesNoFile, by rw [ofEnvironment, hoverride]; rfl, rfl⟩

theorem derived_withOverride_eq_ok_iff {env : CacheEnvironment} {value : String}
    {location : CacheLocation} : derived (env.withOverride value) = .ok location ↔
      location.path ≠ "" ∧ location.path.toList = stripScheme value.toList :=
  derived_eq_ok_iff.trans ofOverride_eq_ok_iff

/-- What is known of the place that is derived from an environment: when there is none, and that
its name, set as the override of any environment, leads back to it. -/
structure NamedBack (env : CacheEnvironment) : Prop where
  fails_iff : (∃ error, derived env = .error error) ↔
    env.ccacheOverride = some "" ∨ env.ccacheOverride = some "FILE:"
  kind : ∀ error, derived env = .error error → error.kind = .configuration
  path : ∀ location, derived env = .ok location → location.path ≠ ""
  byName : ∀ location, derived env = .ok location → ∀ other : CacheEnvironment,
    derived (other.withOverride location.name) = .ok location
  byPath : ∀ location, derived env = .ok location → ∀ other : CacheEnvironment,
    derived (other.withOverride location.path) = .ok location ↔
      ¬ "FILE:".toList <+: location.path.toList

/-- What decides on the places in two environments. -/
structure Decided (env env' : CacheEnvironment) : Prop where
  byOverride : ∀ value, env.ccacheOverride = some value → env'.ccacheOverride = some value →
    derived env = derived env'
  byUid : ∀ uid, env.ccacheOverride = none → env'.ccacheOverride = none →
    env.uid = some uid → env'.uid = some uid → derived env = derived env'
  byTempDir : env.ccacheOverride = none → env'.ccacheOverride = none →
    env.uid = none → env'.uid = none → env.tempDir = env'.tempDir → derived env = derived env'
  apart : env.ccacheOverride = none → env'.ccacheOverride = none → env.uid ≠ env'.uid →
    ∀ location, derived env = .ok location → derived env' ≠ .ok location

theorem namedBack (env : CacheEnvironment) : NamedBack env where
  fails_iff := by
    rw [← show scheme = "FILE:" from rfl, ← exists_fault_iff]
    simp only [derived_eq_error_iff]
    constructor
    · rintro ⟨_, fault, hfault, -⟩
      exact ⟨fault, hfault⟩
    · rintro ⟨fault, hfault⟩
      exact ⟨_, fault, hfault, rfl⟩
  kind error herror := by
    cases derived_eq_error_iff_unlocated.mp herror with
    | emptyOverride => rfl
    | namesNoFile => rfl
  path location hlocation := path_ne_empty (derived_eq_ok_iff.mp hlocation)
  byName location hlocation other := by
    have hpath := path_ne_empty (derived_eq_ok_iff.mp hlocation)
    have hname : location.name.toList = scheme.toList ++ location.path.toList := by
      rw [name, String.toList_append]
    rw [derived_withOverride_eq_ok_iff, hname, stripScheme_append]
    exact ⟨hpath, rfl⟩
  byPath location hlocation other := by
    have hpath := path_ne_empty (derived_eq_ok_iff.mp hlocation)
    rw [derived_withOverride_eq_ok_iff, eq_stripScheme_iff]
    exact and_iff_right hpath

theorem decided (env env' : CacheEnvironment) : Decided env env' where
  byOverride value hoverride hoverride' := by
    simp only [derived, ofEnvironment, hoverride, hoverride']
  byUid uid hoverride hoverride' huid huid' := by
    simp only [derived, ofEnvironment, hoverride, hoverride', huid, huid']
  byTempDir hoverride hoverride' huid huid' htempDir := by
    simp only [derived, ofEnvironment, hoverride, hoverride', huid, huid', htempDir]
  apart hoverride hoverride' hdiffer location hlocation hlocation' := by
    rw [derived_eq_ok_iff] at hlocation hlocation'
    simp only [ofEnvironment, hoverride, hoverride'] at hlocation hlocation'
    cases huid : env.uid with
    | none =>
        cases huid' : env'.uid with
        | none => exact hdiffer (huid.trans huid'.symm)
        | some uid' =>
            simp only [huid, huid', Except.ok.injEq] at hlocation hlocation'
            exact ofUid_ne_ofTempDir _ _ (hlocation'.trans hlocation.symm)
    | some uid =>
        cases huid' : env'.uid with
        | none =>
            simp only [huid, huid', Except.ok.injEq] at hlocation hlocation'
            exact ofUid_ne_ofTempDir _ _ (hlocation.trans hlocation'.symm)
        | some uid' =>
            simp only [huid, huid', Except.ok.injEq] at hlocation hlocation'
            have hsame := ofUid_injective (hlocation.trans hlocation'.symm)
            exact hdiffer (by rw [huid, huid', hsame])

/-- There is a place unless the override is empty or is the bare scheme, which is a mistake in
the configuration. Its path is not empty; its name leads back to it from every environment, and
so does its path alone if it does not begin with the scheme. The override decides if there is
one, else the user id, and else the directory for temporary files, and nothing besides. No two
environments without an override share a place if they differ in the user id. -/
theorem place_named_back {σ ν : Type} (entry : CacheLocation → ν) (state : σ)
    (env env' : CacheEnvironment) :
    ((locate entry env).run state).result = derived env ∧ NamedBack env ∧ Decided env env' :=
  ⟨result_locate entry env state, namedBack env, decided env env'⟩

/-- Of a scheme that stands twice, one remains in the path: the name leads back, the path does
not. -/
example : derived ⟨some "FILE:FILE:c", none, []⟩ = .ok ⟨"FILE:c"⟩ ∧
    derived ⟨some "FILE:c", none, []⟩ = .ok ⟨"c"⟩ := by decide

end CacheLocation

end KerberosLogin
