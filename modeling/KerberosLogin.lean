import KerberosLogin.Handshake.Run
import KerberosLogin.Proofs.Handshake.Completion
import KerberosLogin.Proofs.Handshake.Fallback
import KerberosLogin.Proofs.Handshake.Holdings
import KerberosLogin.Proofs.Resolver.Identity
import KerberosLogin.Proofs.Resolver.SourceCalls
import KerberosLogin.StandIn.AccountServer.Server
import KerberosLogin.StandIn.Backends
import KerberosLogin.Text.Hex
import KerberosLogin.Proofs.Principal
import KerberosLogin.Proofs.Resolver.Repetition
import KerberosLogin.Proofs.Gssapi.CacheUse
import KerberosLogin.Proofs.Handshake.Secrecy
import KerberosLogin.Proofs.Handshake.Misuse
import KerberosLogin.Proofs.Backend
import KerberosLogin.Proofs.Challenge.LeftmostFault
import KerberosLogin.Proofs.Challenge.Truncation
import KerberosLogin.Proofs.Resolver.Verdict
import KerberosLogin.Proofs.Resolver.Failure
import KerberosLogin.Proofs.Resolver.Unusable
import KerberosLogin.Proofs.Handshake.Initiation
import KerberosLogin.Proofs.Negotiate.Numbering
import KerberosLogin.Proofs.Handshake.TokenSecrecy
import KerberosLogin.Proofs.Handshake.DebugText
import KerberosLogin.Proofs.CacheLocation
import KerberosLogin.Proofs.Resolver.DefaultUser
import KerberosLogin.Proofs.Backend.Transparency
import KerberosLogin.Proofs.Negotiate.Lending
import KerberosLogin.Proofs.Gssapi.CacheNaming
