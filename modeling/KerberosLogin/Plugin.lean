import KerberosLogin.Text.Shown

/-! # Authentication plugins

A server names the plugin it expects for an account. What the connection has to
know of a plugin is its name, the method behind it, and whether the transport
must be encrypted before it may run. What a plugin hands back is data to write.
-/

namespace KerberosLogin

/-- How a plugin authenticates. -/
inductive AuthMethod where
  /-- A Kerberos security context is negotiated. -/
  | kerberos
  /-- The password is sent as it is. -/
  | clearPassword
  deriving DecidableEq

namespace AuthMethod

/-- Whether the method negotiates a security context. -/
def isKerberos (method : AuthMethod) : Bool :=
  method = kerberos

/-- Whether the method puts the password on the wire. -/
def sendsPassword (method : AuthMethod) : Bool :=
  method = clearPassword

/-- The method's name. -/
def name : AuthMethod → String
  | kerberos => "Kerberos"
  | clearPassword => "ClearPassword"

/-- The method of a name. -/
def ofName? (name : String) : Option AuthMethod :=
  [kerberos, clearPassword].find? fun method => method.name = name

end AuthMethod

/-- The client side of a plugin as the connection sees it. -/
structure Plugin where
  name : String
  method : AuthMethod

namespace Plugin

/-- A plugin that sends the password may only run over an encrypted transport. -/
def requiresTls (plugin : Plugin) : Bool :=
  plugin.method.sendsPassword

/-- The plugin for Kerberos logins. -/
def kerberos : Plugin := ⟨"authentication_kerberos_client", .kerberos⟩

/-- The plugin that sends the password. -/
def clearPassword : Plugin := ⟨"mysql_clear_password", .clearPassword⟩

end Plugin

/-- What a plugin produced for the server. -/
inductive AuthData where
  /-- A token of a security context. -/
  | token (bytes : Bytes)
  /-- The payload of the plugin that sends the password. -/
  | clearPassword (bytes : Bytes)
  /-- Nothing to send this round. -/
  | none
  deriving DecidableEq

namespace AuthData

/-- The bytes to write, if any. -/
def bytes? : AuthData → Option Bytes
  | token bytes => some bytes
  | clearPassword bytes => some bytes
  | none => Option.none

/-- The name of the kind of data. -/
def kindName : AuthData → String
  | token _ => "Token"
  | clearPassword _ => "ClearPassword"
  | none => "None"

/-- The data as it is shown to a developer. -/
def shown : AuthData → String
  | token bytes => Shown.call "Token" (Shown.bytes bytes)
  | clearPassword bytes => Shown.call "ClearPassword" (Shown.bytes bytes)
  | none => "None"

end AuthData

end KerberosLogin
