/-!
# The life of a connection

A client is in one of five phases, and only a signal moves it on. `Phase.next?` is the whole table
of legal moves: `reconnect` leads to `connecting` from everywhere and is the only way out of
`disconnected`, and `active` is entered only from `connected` and from `pairing`.
-/

namespace SharedDesk

/-- Where a client stands in its connection. -/
inductive Phase
  | disconnected
  | connecting
  | connected
  | pairing
  | active
deriving DecidableEq, Repr, Inhabited

/-- What can happen to a connection. -/
inductive Signal
  | reconnect
  | helloAccepted
  | helloRejected
  | handshakeTimedOut
  | pairingRequired
  | pairingNotRequired
  | pinVerified
  | pinMismatch
  | pairingFailed
  | probesMissed
  | peerClosed
deriving DecidableEq, Repr, Inhabited

namespace Phase

/-- Every phase. -/
def all : List Phase := [disconnected, connecting, connected, pairing, active]

/-- The phase's name, as the operator's window shows it. -/
def label : Phase → String
  | disconnected => "Disconnected"
  | connecting => "Connecting"
  | connected => "Connected"
  | pairing => "Pairing"
  | active => "Active"

/-- The phase's name within a sentence. -/
def word : Phase → String
  | disconnected => "disconnected"
  | connecting => "connecting"
  | connected => "connected"
  | pairing => "pairing"
  | active => "active"

/-- The phase a signal leads to, if the move is legal. -/
def next? : Phase → Signal → Option Phase
  | _, .reconnect => some connecting
  | connecting, .helloAccepted => some connected
  | connecting, .helloRejected => some disconnected
  | connecting, .handshakeTimedOut => some disconnected
  | connected, .pairingRequired => some pairing
  | connected, .pairingNotRequired => some active
  | pairing, .pinVerified => some active
  | pairing, .pinMismatch => some pairing
  | pairing, .pairingFailed => some disconnected
  | pairing, .peerClosed => some disconnected
  | active, .probesMissed => some disconnected
  | active, .peerClosed => some disconnected
  | _, _ => none

/-- Whether the client is between its first word and its activation. -/
def isHandshaking : Phase → Bool
  | connecting => true
  | connected => true
  | pairing => true
  | disconnected => false
  | active => false

end Phase

namespace Signal

/-- Every signal. -/
def all : List Signal :=
  [reconnect, helloAccepted, helloRejected, handshakeTimedOut, pairingRequired, pairingNotRequired,
    pinVerified, pinMismatch, pairingFailed, probesMissed, peerClosed]

/-- The signal's name. -/
def label : Signal → String
  | reconnect => "Reconnect"
  | helloAccepted => "HelloAccepted"
  | helloRejected => "HelloRejected"
  | handshakeTimedOut => "HandshakeTimedOut"
  | pairingRequired => "PairingRequired"
  | pairingNotRequired => "PairingNotRequired"
  | pinVerified => "PinVerified"
  | pinMismatch => "PinMismatch"
  | pairingFailed => "PairingFailed"
  | probesMissed => "ProbesMissed"
  | peerClosed => "PeerClosed"

end Signal

/-- A signal that the phase has no move for. -/
structure IllegalMove where
  phase : Phase
  signal : Signal
deriving DecidableEq, Repr

/-- The wording of a refused signal. -/
def IllegalMove.message (m : IllegalMove) : String :=
  "invalid transition: " ++ m.signal.label ++ " is not allowed while " ++ m.phase.word

/-- Follows a signal, or says which move is missing. -/
def Phase.follow (p : Phase) (s : Signal) : Except IllegalMove Phase :=
  match p.next? s with
  | some q => .ok q
  | none => .error ⟨p, s⟩

end SharedDesk
