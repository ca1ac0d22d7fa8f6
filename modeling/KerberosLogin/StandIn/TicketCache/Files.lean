import KerberosLogin.StandIn.TicketCache.PrincipalName
import KerberosLogin.Text.Substitute
import KerberosLogin.Text.Utf8

/-! # Caches in a directory

Tickets lie in caches, and caches are files under one directory that is kept in
memory. The name of a cache is a path, perhaps with a type before it: `FILE:` and
a path, `DIR::` and the path of one member of a collection, or `DIR:` and a
directory, whose primary member is meant then. There are no caches of other types.

A path leads from the root of the file system over directories to a place. The
directory lies in one of those that every system has, and nothing else is there.
-/

namespace KerberosLogin

namespace StandIn

namespace TicketCache

/-- A ticket for a server. -/
structure Ticket where
  server : PrincipalName
  expired : Bool
  /-- Whether the ticket is for a key that the server does not hold. -/
  foreignKey : Bool

/-- The tickets of a principal. -/
structure Cache where
  principal : PrincipalName
  tickets : List Ticket

namespace Cache

/-- The ticket that decides how long a cache lasts: the last one for the
ticket-granting server of its own realm, or else the first one. Settings are no
tickets. -/
def decisive? (cache : Cache) : Option Ticket :=
  let granting := PrincipalName.grantingServer cache.principal.realm
  let tickets := cache.tickets.filter (!·.server.isSetting)
  (tickets.filter (·.server = granting)).getLast?.or tickets.head?

/-- Whether a cache is of no use any more, as one without tickets always is. -/
def isExpired (cache : Cache) : Bool :=
  (cache.decisive?.map Ticket.expired).getD true

/-- A valid ticket for exactly a server. -/
def validFor? (cache : Cache) (server : PrincipalName) : Option Ticket :=
  cache.tickets.find? fun ticket => ticket.server = server && !ticket.expired

/-- A valid ticket for a server. A server whose realm is empty can be one of the
client's own realm. -/
def ticketFor? (cache : Cache) (server : PrincipalName) : Option Ticket :=
  (cache.validFor? server).or <|
    if server.realm.isEmpty then cache.validFor? { server with realm := cache.principal.realm }
    else none

end Cache

/-- What can stand in a directory. -/
inductive Entry where
  | cache (content : Cache)
  /-- A file that is no cache. -/
  | other (content : Bytes)
  | directory

/-- What the name of a cache stands for. -/
inductive CacheName where
  | file (path : List Char)
  /-- The primary member of the collection in a directory. -/
  | primary (directory : List Char)

namespace CacheName

/-- What the name of every member of a collection begins with. -/
def memberStart : List Char := ['t', 'k', 't']

/-- Whether a path leads to a member of a collection in some directory. -/
def isMember (path : List Char) : Bool :=
  match Cut.last? '/' path with
  | some (directory, member) => !directory.isEmpty && memberStart.isPrefixOf member
  | none => false

/-- Reads the name of a cache. -/
def read? (name : String) : Option CacheName :=
  match Cut.first? ':' name.toList with
  | none => some (.file name.toList)
  | some (['F', 'I', 'L', 'E'], path) => some (.file path)
  | some (['D', 'I', 'R'], ':' :: path) => if isMember path then some (.file path) else none
  | some (['D', 'I', 'R'], directory) => some (.primary directory)
  | some _ => none

/-- The file of a collection that tells which member is the primary one. -/
def primaryFile : List Char := "primary".toList

/-- The most bytes that a line with the name of the primary member has. -/
def primaryLimit : Nat := 62

/-- The name of the primary member, from the file that tells it. The first line
counts, and has to end. -/
def readPrimary? (content : Bytes) : Option (List Char) :=
  let line := content.takeWhile (· ≠ 0x0A)
  if content.contains 0x0A && line.length ≤ primaryLimit && !line.contains 0 then
    match Utf8.decode line with
    | .ok text =>
      let member := text.toList
      if memberStart.isPrefixOf member && !member.contains '/' && !member.contains '\\' then
        some member
      else none
    | .error _ => none
  else none

end CacheName

/-- A place in the file system: the names that lead to it from the root. -/
abbrev Location := List (List Char)

/-- The state of the mechanism: the directory, and the name of the default cache. -/
structure Host where
  /-- Stands for the path of the directory wherever it occurs in a path. -/
  root : String
  /-- What stands in the directory, under paths from there; of two entries of one path
  the first counts. -/
  entries : List (String × Entry)
  /-- The value of the variable that names the default cache, if it is set. -/
  cacheName : Option String

namespace Host

/-- A process without files. -/
def empty : Host := ⟨"", [], none⟩

/-- The directory that the directory lies in. -/
def parent : List Char := "tmp".toList

/-- Directories that every system has, besides those on the way to them. -/
def systemDirectories : List Location :=
  ["boot", "dev/shm", "etc", "home", "media", "mnt", "opt", "proc/self", "root", "run", "srv",
    "sys", "tmp", "usr/bin", "usr/lib", "usr/local/bin", "usr/sbin", "usr/share", "var/cache",
    "var/lib", "var/log", "var/tmp"].map fun path => path.toList.splitOn '/'

/-- Where the directory lies. -/
def home (host : Host) : Location :=
  [parent, host.root.toList]

/-- Where an entry lies. -/
def locate (host : Host) (name : String) : Location :=
  host.home ++ name.toList.splitOn '/'

/-- Whether there is a directory at a place because something lies in it, or because
there always is one. -/
def isKnownDirectory (host : Host) (location : Location) : Bool :=
  location.isPrefixOf host.home || systemDirectories.any location.isPrefixOf
    || host.entries.any fun (name, _) => location.isPrefixOf (host.locate name)

/-- What stands at a place. -/
def entry? (host : Host) (location : Location) : Option Entry :=
  ((host.entries.find? fun (name, _) => host.locate name = location).map Prod.snd).or <|
    if host.isKnownDirectory location then some .directory else none

/-- Walks a path from a place, which is given by its names from the last one to the
first. Every place that the path goes on from is a directory; above the root is the
root. -/
def walk? (host : Host) : Location → List (List Char) → Option Location
  | inside, [] => (host.entry? inside.reverse).map fun _ => inside.reverse
  | inside, part :: rest =>
    match host.entry? inside.reverse with
    | some .directory =>
      if part = [] || part = ['.'] then walk? host inside rest
      else if part = ['.', '.'] then walk? host inside.tail rest
      else walk? host (part :: inside) rest
    | _ => none

/-- How many bytes a path cannot have any more. -/
def pathLimit : Nat := 4096

/-- The place that a path leads to. A path that does not begin at the root leads
nowhere. -/
def resolve? (host : Host) (path : List Char) : Option Location :=
  let root := '/' :: parent ++ '/' :: host.root.toList
  match Substitute.all host.root.toList root path with
  | '/' :: names =>
    if (String.ofList ('/' :: names)).utf8ByteSize < pathLimit then
      host.walk? [] (names.splitOn '/')
    else none
  | _ => none

/-- What stands at the end of a path. -/
def at? (host : Host) (path : List Char) : Option Entry :=
  (host.resolve? path).bind host.entry?

/-- The cache at a place. -/
def cacheIn? (host : Host) (location : Location) : Option Cache :=
  match host.entry? location with
  | some (.cache content) => some content
  | _ => none

/-- The cache at the end of a path. -/
def cacheAt? (host : Host) (path : List Char) : Option Cache :=
  (host.resolve? path).bind host.cacheIn?

/-- The name of the primary member of the collection in a directory. Where no file
tells it, the shortest name that a member can have is taken. -/
def primary? (host : Host) (directory : List Char) : Option (List Char) :=
  match host.at? (directory ++ '/' :: CacheName.primaryFile) with
  | none => some CacheName.memberStart
  | some (.other content) => CacheName.readPrimary? content
  | some _ => none

/-- The cache of a name. -/
def cacheNamed? (host : Host) (name : String) : Option Cache :=
  match CacheName.read? name with
  | some (.file path) => host.cacheAt? path
  | some (.primary directory) =>
    (host.primary? directory).bind fun member => host.cacheAt? (directory ++ '/' :: member)
  | none => none

/-- The default cache. -/
def defaultCache? (host : Host) : Option Cache :=
  host.cacheName.bind host.cacheNamed?

/-- The members of a collection in a directory. -/
def members (host : Host) (directory : Location) : List Cache :=
  host.entries.filterMap fun (name, _) =>
    let location := host.locate name
    if location.dropLast = directory && location.getLast?.any CacheName.memberStart.isPrefixOf then
      host.cacheIn? location
    else none

/-- The caches beside the default one that belong to the same collection. -/
def siblings (host : Host) : List Cache :=
  match host.cacheName.bind CacheName.read? with
  | some (.primary directory) => (host.resolve? directory).elim [] host.members
  | _ => []

/-- All caches that the mechanism knows of, the default one first. -/
def caches (host : Host) : List Cache :=
  host.defaultCache?.toList ++ host.siblings

/-- The cache to use towards a server: one of the server's own realm, or else the
default one. -/
def cacheTowards? (host : Host) (server : PrincipalName) : Option Cache :=
  (host.caches.find? (·.principal.realm = server.realm)).or host.defaultCache?

/-- Puts something into the directory, in the place of what stands there. A directory
is put there with another one, `x`, inside. -/
def write (name : String) (entry : Entry) (host : Host) : Host :=
  let inside := match entry with
    | .directory => [(name ++ "/x", .directory)]
    | _ => []
  { host with entries := (name, entry) :: inside ++ host.entries }

end Host

end TicketCache

end StandIn

end KerberosLogin
