import KerberosLogin.Action
import KerberosLogin.Log

/-! # Where credentials are cached

Kerberos keeps tickets in a file named after the user, unless the variable
`KRB5CCNAME` names another one. The place is derived from an explicit
environment, so that nothing below reads the state of the process.

Without a user id the place is a file in the directory for temporary files. The two
are joined as on Unix, with one `/` between them. The programs that are shipped take
this branch on other platforms only, where the separator is the platform's own.
-/

namespace KerberosLogin

/-- What the place of the credential cache depends on. -/
structure CacheEnvironment where
  /-- The value of `KRB5CCNAME`, if it is set. -/
  ccacheOverride : Option String
  /-- The user id, on platforms that have one. -/
  uid : Option UInt32
  /-- The directory for temporary files, as the bytes of a path. -/
  tempDir : Bytes
  deriving DecidableEq

/-- The two variables of a process that matter, as the raw bytes they hold. -/
structure ProcessVariables where
  ccacheName : Option Bytes
  tempDir : Option Bytes

namespace CacheEnvironment

/-- The directory for temporary files where nothing else is said. -/
def defaultTempDir : Bytes := Utf8.encode "/tmp"

/-- The environment of a user, without an override. -/
def forUid (uid : UInt32) : CacheEnvironment :=
  ⟨none, some uid, defaultTempDir⟩

/-- Sets the override. -/
def withOverride (env : CacheEnvironment) (value : String) : CacheEnvironment :=
  { env with ccacheOverride := some value }

/-- Sets the directory for temporary files. -/
def withTempDir (env : CacheEnvironment) (dir : Bytes) : CacheEnvironment :=
  { env with tempDir := dir }

/-- The environment of a process. An override that is not text counts as absent;
an empty directory is a directory. -/
def ofProcess (process : ProcessVariables) (uid : Option UInt32) : CacheEnvironment where
  ccacheOverride := process.ccacheName.bind fun name => (Utf8.decode name).toOption
  uid := uid
  tempDir := process.tempDir.getD defaultTempDir

end CacheEnvironment

/-- The file that holds a credential cache. -/
structure CacheLocation where
  path : String
  deriving DecidableEq

namespace CacheLocation

/-- The variable that overrides the place of the cache. -/
def overrideVariable : String := "KRB5CCNAME"

/-- What can be wrong with an override. -/
inductive Fault where
  | emptyOverride
  | namesNoFile
  deriving DecidableEq

/-- An override that names nothing is a mistake of the caller's, and no reason
to fall back to the default. -/
def Fault.toError : Fault → AuthError
  | emptyOverride =>
    ⟨.configuration, s!"the '{overrideVariable}' environment variable is set to empty"⟩
  | namesNoFile =>
    ⟨.configuration, s!"the '{overrideVariable}' environment variable names no file"⟩

/-- The scheme of caches that are files. -/
def scheme : String := "FILE:"

/-- Takes the scheme away, once. -/
def stripScheme : List Char → List Char
  | 'F' :: 'I' :: 'L' :: 'E' :: ':' :: path => path
  | path => path

/-- The path of a file in a directory. Only a separator that is missing is
added. -/
def joinPath (dir file : Bytes) : Bytes :=
  let separator := Utf8.encode "/"
  if dir.isEmpty || separator.isSuffixOf dir then dir ++ file else dir ++ separator ++ file

/-- The place that an override names. -/
def ofOverride (value : String) : Except Fault CacheLocation :=
  if value.isEmpty then .error .emptyOverride
  else
    let path := stripScheme value.toList
    if path.isEmpty then .error .namesNoFile else .ok ⟨String.ofList path⟩

/-- The place of a user's cache. -/
def ofUid (uid : UInt32) : CacheLocation :=
  ⟨"/tmp/krb5cc_" ++ toString uid.toNat⟩

/-- The place of the cache where there are no user ids. Path bytes that are not
text are replaced. -/
def ofTempDir (dir : Bytes) : CacheLocation :=
  ⟨Utf8.decodeLossy (joinPath dir (Utf8.encode "krb5cc"))⟩

/-- The place of the cache. An override wins over the user id, and the user id
over the directory for temporary files. -/
def ofEnvironment (env : CacheEnvironment) : Except Fault CacheLocation :=
  match env.ccacheOverride, env.uid with
  | some value, _ => ofOverride value
  | none, some uid => .ok (ofUid uid)
  | none, none => .ok (ofTempDir env.tempDir)

/-- The cache's full name. -/
def name (location : CacheLocation) : String :=
  scheme ++ location.path

/-- The location as it is shown to a developer. -/
def shown (location : CacheLocation) : String :=
  Shown.record "CacheLocation" [("path", Shown.quoted location.path)]

/-- What is logged of a location that was derived. -/
def logRecord (location : CacheLocation) : LogRecord :=
  ⟨.debug, "using krb5 ccache", [("ccache", .text location.name)]⟩

/-- Derives the place of the cache and takes a note of it. -/
def locate {σ ν : Type} (entry : CacheLocation → ν) (env : CacheEnvironment) :
    Action σ ν CacheLocation := do
  let location ← Action.ofExcept ((ofEnvironment env).mapError Fault.toError)
  Action.note (entry location)
  return location

end CacheLocation

end KerberosLogin
