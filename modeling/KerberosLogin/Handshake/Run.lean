import KerberosLogin.Handshake.Client

/-! # Runs of calls

A caller makes one call after the other on the same exchange. A run keeps what
each call gave, the exchange it left included, so that it can be looked back on.
Nothing is assumed of the order of the calls: one that is out of place is answered
like any other.
-/

namespace KerberosLogin

namespace Client

variable {ω ν κ χ : Type}

/-- A call of the caller. -/
inductive Call where
  | begin (initial : Option Bytes)
  | proceed (token : Option Bytes)
  | close (message : Bytes)
  deriving DecidableEq

/-- The operation that a call asks for. -/
def Call.operation : Call → Operation
  | begin _ => .begin
  | proceed _ => .proceed
  | close _ => .close

/-- What a call yields. -/
inductive Answer where
  | initial (response : InitialResponse)
  | outcome (outcome : HandshakeOutcome)
  | closing (message : Bytes)
  deriving DecidableEq

variable (client : Client ω ν κ χ)

/-- Makes one call. -/
def call : Call → Act ω ν χ Answer
  | .begin initial => .initial <$> client.begin initial
  | .proceed token => .outcome <$> client.proceed token
  | .close message => .closing <$> client.close message

/-- Makes calls in turn, each from where the one before it has left the exchange. -/
def run : List Call → Exchange χ × ω → List (Outcome (Exchange χ × ω) (HandshakeNote ν) Answer)
  | [], _ => []
  | next :: calls, state =>
    let outcome := (client.call next).run state
    outcome :: run calls outcome.state

end Client

end KerberosLogin
