import KerberosLogin.Gssapi.Provider
import KerberosLogin.StandIn.Conversation
import KerberosLogin.StandIn.TicketCache.Files
import KerberosLogin.StandIn.TicketCache.Message

/-! # A Kerberos mechanism in memory

The mechanism reads tickets from caches in a directory that is kept in memory.
There is no realm with a key distribution center, so what the caches hold is all
there is: fresh credentials are never to be had, and a context can be opened only
towards a server for which a cache holds a valid ticket.

Protected messages are independent of each other: their order does not matter, and
each can be verified any number of times.
-/

namespace KerberosLogin

namespace StandIn

namespace TicketCache

/-- A failure without an explanation. -/
def failure : Gssapi.Fault := ⟨0x000D0000, noDetail⟩

/-- Credentials that have run out. -/
def expired : Gssapi.Fault := ⟨Gssapi.Fault.credentialsExpired, noDetail⟩

/-- What the mechanism says of a message that it cannot read. -/
def Message.Fault.toFault : Message.Fault → Gssapi.Fault
  | defective => failure
  | forged => ⟨Gssapi.Fault.badSignature, noDetail⟩

/-- Credentials: the default cache as it was read. Where only other caches were to
be had, nothing is behind them. -/
abbrev Handle : Type := Option Cache

/-- A name as the mechanism keeps it. -/
inductive Name where
  /-- A text that was not read yet. -/
  | imported (text : String)
  | canonical (name : PrincipalName)

/-- The principal that a name means. -/
def Name.principal? : Name → Option PrincipalName
  | imported text => PrincipalName.parse? text
  | canonical name => some name

/-- Begins every token. -/
def tokenTag : Bytes := Utf8.encode "KERBEROS"

/-- The token that opens a context, under a foreign key or under the server's. -/
def request (foreignKey proving : Bool) : Bytes :=
  tokenTag ++ [1, if foreignKey then 1 else 0, if proving then 1 else 0]

/-- The server's proof of its own identity. -/
def reply : Bytes := tokenTag ++ [2]

/-- How far a negotiation has come. -/
inductive Phase where
  | fresh
  | requested
  | finished
  /-- A step failed, and none will succeed again. -/
  | spoiled
  deriving DecidableEq

/-- The state of the mechanism for one client context. -/
structure Negotiation where
  /-- The credentials, if the context was given any. -/
  credential : Option Handle
  target : Name
  /-- Whether the server has to prove its own identity. -/
  proving : Bool
  phase : Phase := .fresh
  /-- How many messages were protected. -/
  sent : Nat := 0

/-- The ticket that a negotiation uses. -/
def Negotiation.ticket? (negotiation : Negotiation) (host : Host) : Option Ticket := do
  let server ← negotiation.target.principal?
  let cache ← negotiation.credential.getD (host.cacheTowards? server)
  cache.ticketFor? server

/-- The token that a client sends, and how far it has come then. It opens the context
without any input, and believes a server at once that need not prove itself. -/
def Negotiation.next? (negotiation : Negotiation) (input : Option Bytes) (host : Host) :
    Option (Option Bytes × Phase) := do
  match negotiation.phase with
  | .fresh =>
    guard (input.getD []).isEmpty
    let ticket ← negotiation.ticket? host
    return (some (request ticket.foreignKey negotiation.proving),
      if negotiation.proving then .requested else .finished)
  | .requested =>
    guard (input = some reply)
    return (none, .finished)
  | .finished => return (none, .finished)
  | .spoiled => none

/-- One step of the client. A step that fails spoils the context. -/
def step (input : Option Bytes) (state : Negotiation × Host) :
    Except Gssapi.Fault (Option Bytes) × (Negotiation × Host) :=
  let (negotiation, host) := state
  match negotiation.next? input host with
  | some (token, phase) => (.ok token, { negotiation with phase := phase }, host)
  | none => (.error failure, { negotiation with phase := .spoiled }, host)

/-- Acquires the credentials of the default cache. There have to be some, but they
need not be there. -/
def acquire (host : Host) : Except Gssapi.Fault Handle :=
  if host.caches.isEmpty then .error failure else .ok host.defaultCache?

/-- Tells of credentials. -/
def inspect : Handle → Except Gssapi.Fault Gssapi.CredentialInfo
  | none => .error failure
  | some cache =>
    if cache.isExpired then .error expired else .ok ⟨cache.principal.render, ⟨3600, 0⟩⟩

/-- Stores credentials. A cache of their own principal has them already and stays as
it is; nothing else can take them. -/
def storeInto (handle : Handle) (name : String) (host : Host) : Except Gssapi.Fault Unit :=
  match handle, host.cacheNamed? name with
  | some kept, some cache =>
    if cache.principal = kept.principal then .ok () else .error failure
  | _, _ => .error failure

/-- The mechanism. -/
def mechanism : Gssapi.Mechanism Host Unit Handle Name Negotiation where
  emptySet host := (.ok (), host)
  addKerberos _ host := (.ok (), host)
  acquire _ host := (acquire host, host)
  inspect handle host := (inspect handle, host)
  importName name host :=
    (if name.isEmpty then .error failure else .ok (.imported (Utf8.decodeLossy name)), host)
  canonicalize name host :=
    (name.principal?.elim (.error failure) fun principal => .ok (.canonical principal), host)
  acquireWithPassword _ _ _ host := (.error failure, host)
  storeInto handle name host := (storeInto handle name host, host)
  newContext credential target flags := ⟨credential, target, flags.mutualAuth, .fresh, 0⟩
  step := step
  isComplete negotiation := negotiation.phase = .finished
  wrap encrypt payload state :=
    let (negotiation, host) := state
    (.ok (Message.protect .toServer encrypt negotiation.sent payload),
      { negotiation with sent := negotiation.sent + 1 }, host)
  unwrap message state :=
    ((Message.open? .toClient message).mapError Message.Fault.toFault, state)

/-- The server's state. -/
structure State where
  established : Bool := false
  /-- How many messages were protected. -/
  sent : Nat := 0

/-- Whether a token is a request that the key of the server can read. It is told
whether the server has to prove itself. -/
def readRequest? (token : Option Bytes) : Option Bool :=
  let readable (proving : Bool) := token = some (request false proving)
  if readable true then some true else if readable false then some false else none

/-- The server takes one request. -/
def accept (hasKey : Bool) (token : Option Bytes) (state : State) :
    Option (Option Bytes) × State :=
  if hasKey && !state.established then
    match readRequest? token with
    | some proving =>
      (some (if proving then some reply else none), { state with established := true })
    | none => (none, state)
  else (none, state)

/-- The server protects a message. -/
def wrap (payload : Bytes) (state : State) : Option Bytes × State :=
  if state.established then
    (some (Message.protect .toClient false state.sent payload),
      { state with sent := state.sent + 1 })
  else (none, state)

/-- The server verifies a message. -/
def unwrap (message : Bytes) (state : State) : Option Bytes × State :=
  if state.established then ((Message.open? .toServer message).toOption, state) else (none, state)

/-- Whether a table of keys can keep a part of a name. -/
def isTabular (part : String) : Bool :=
  0 < part.utf8ByteSize && part.utf8ByteSize < 0x8000

/-- Whether there is a key in a table. All keys are the same, and a principal that the
table cannot keep ends it. -/
def hasKey (keytab : List PrincipalName) : Bool :=
  keytab.head?.any fun principal => (principal.realm :: principal.components).all isTabular

/-- The server with a table of keys. -/
def server (keytab : List PrincipalName) : Server State :=
  ⟨accept (hasKey keytab), wrap, unwrap⟩

end TicketCache

end StandIn

end KerberosLogin
