import SharedDesk.Address.Printer
import SharedDesk.Admission.Hello
import SharedDesk.Admission.Pin
import SharedDesk.Registry
/-!
# Letting clients in

A client that says hello is activated at once if it is trusted. Otherwise a session is opened and
the operator is shown a PIN; the client becomes active and trusted once it proves that it knows
the PIN, in time and with a limited number of tries. The address that uses up the tries is locked
out for a while.

Every operation takes the time and the registry, and gives its result, both tables afterwards, and
at most one notice for the operator. The clock is read once for a whole operation: the phases that a
client enters in it and the session that it opens all bear the same time.
-/

namespace SharedDesk

/-- The rules of pairing. -/
structure PairingPolicy where
  maxAttempts : Nat
  pinExpiry : Duration
  lockout : Duration
deriving DecidableEq, Repr

/-- A client that was shown a PIN and has not proved it yet. -/
structure Session where
  client : Uuid
  /-- The answer that proves the PIN. -/
  answer : String
  openedAt : Time
  /-- Wrong answers so far. -/
  attempts : Nat
deriving DecidableEq

/-- What a hello leads to. -/
inductive Welcome
  | activated
  | pairingRequired (session : Uuid)
deriving DecidableEq

/-- Something that the operator is told. -/
inductive Notice
  | activated (client : Uuid)
  | rejected (client : Uuid) (reason : String)
  | pairingRequested (client session : Uuid) (pin : Pin)
  | pairingCompleted (client : Uuid)
  | pairingFailed (client : Uuid) (reason : String)
  | disconnected (client : Uuid)
deriving DecidableEq

/-- Why a hello fails. -/
inductive HandshakeFault
  | lockedOut (address : Address) (seconds : Nat)
  | refused (fault : HelloFault)
  | registry (fault : RegistryFault)
deriving DecidableEq

/-- The wording of a failed hello. -/
def HandshakeFault.message : HandshakeFault → String
  | lockedOut address seconds =>
    "address " ++ address.text ++ " is locked out for " ++ toString seconds ++ "s"
  | refused fault => fault.message
  | registry fault => fault.message

/-- Why an answer fails. -/
inductive PairingFault
  | noSession
  | wrongPin (left : Nat)
  | lockedOut (seconds : Nat)
  | expired
  | registry (fault : RegistryFault)
  /-- The end of the lockout lies beyond what the clock can show. -/
  | clockOverflow
deriving DecidableEq

/-- The wording of a failed answer. -/
def PairingFault.message : PairingFault → String
  | noSession => "pairing session not found or expired"
  | wrongPin left => "incorrect PIN; " ++ toString left ++ " attempt(s) remaining"
  | lockedOut seconds =>
    "client is locked out for " ++ toString seconds ++ "s due to too many failed attempts"
  | expired => "pairing session expired"
  | registry fault => fault.message
  | clockOverflow => "overflow when adding duration to instant"

/-- Who is let in, and who is on the way in. -/
structure Admission where
  policy : PairingPolicy
  sessions : Table Uuid Session
  /-- Until when an address is locked out. -/
  lockouts : Table Address Time
  trusted : Table Uuid Unit
deriving DecidableEq

namespace Admission

/-- What an operation leads to. -/
structure Outcome (ε α : Type) where
  result : Except ε α
  admission : Admission
  registry : Registry
  notice : Option Notice

/-- Nobody trusted, nobody on the way in. -/
def ofPolicy (policy : PairingPolicy) : Admission := ⟨policy, .empty, .empty, .empty⟩

/-! ## Trust, sessions and lockouts -/

/-- Trusts a client from now on. -/
def trust (m : Admission) (id : Uuid) : Admission := { m with trusted := m.trusted.insert id () }

/-- Whether a client is trusted. -/
def isTrusted (m : Admission) (id : Uuid) : Bool := m.trusted.contains id

/-- The trusted clients, ascending. -/
def trustedClients (m : Admission) : List Uuid := m.trusted.keys

/-- Drops every session of a client. -/
def dropSessions (m : Admission) (id : Uuid) : Admission :=
  { m with sessions := m.sessions.filter fun _ s => s.client != id }

/-- Drops one session. -/
def closeSession (m : Admission) (session : Uuid) : Admission :=
  { m with sessions := m.sessions.erase session }

/-- The whole seconds for which an address is still locked out. -/
def lockedOut? (m : Admission) (address : Address) (now : Time) : Option Nat :=
  match m.lockouts.find? address with
  | some deadline => if now < deadline then some (Duration.wholeSeconds (deadline - now)) else none
  | none => none

/-- Drops sessions and trust of a client, and says whether it was trusted. -/
def forget (m : Admission) (id : Uuid) : Bool × Admission :=
  (m.isTrusted id, { m.dropSessions id with trusted := m.trusted.erase id })

/-- Drops every session of a client, and says how many there were. -/
def abandonPairing (m : Admission) (id : Uuid) : Nat × Admission :=
  (m.sessions.size - (m.dropSessions id).sessions.size, m.dropSessions id)

/-- Drops expired sessions and lapsed lockouts, and says how many sessions there were. -/
def purge (m : Admission) (now : Time) : Nat × Admission :=
  let sessions := m.sessions.filter fun _ s => Time.elapsed now s.openedAt ≤ m.policy.pinExpiry
  (m.sessions.size - sessions.size,
    { m with sessions, lockouts := m.lockouts.filter fun _ deadline => now < deadline })

/-! ## Hello -/

/-- Handles a hello from an address that is not locked out. `session` and `pin` are used when a
session has to be opened. All of it happens at `now`: the age of the session and of the phase `pairing`
are counted from one reading of the clock. -/
def welcome (m : Admission) (registry : Registry) (hello : Hello) (now : Time) (session : Uuid)
    (pin : Pin) : Outcome HandshakeFault Welcome :=
  let id := hello.client
  let m := m.dropSessions id
  let greeted := registry.greet id (Hello.displayName hello.name) now
  match hello.check with
  | .error fault =>
    match greeted.signal id .helloRejected now with
    | .error fault => ⟨.error (.registry fault), m, greeted, none⟩
    | .ok (_, rejected) =>
      ⟨.error (.refused fault), m, rejected, some (.rejected id fault.message)⟩
  | .ok () =>
    match greeted.signal id .helloAccepted now with
    | .error fault => ⟨.error (.registry fault), m, greeted, none⟩
    | .ok (_, accepted) =>
      if m.isTrusted id then
        match accepted.signal id .pairingNotRequired now with
        | .error fault => ⟨.error (.registry fault), m, accepted, none⟩
        | .ok (_, active) => ⟨.ok .activated, m, active, some (.activated id)⟩
      else
        match accepted.signal id .pairingRequired now with
        | .error fault => ⟨.error (.registry fault), m, accepted, none⟩
        | .ok (_, pairing) =>
          let opened : Session := ⟨id, Pin.answerTo session pin.text, now, 0⟩
          ⟨.ok (.pairingRequired session),
            { m with sessions := m.sessions.insert session opened }, pairing,
            some (.pairingRequested id session pin)⟩

/-- Handles a hello. An address that is locked out changes nothing. -/
def hello (m : Admission) (registry : Registry) (hello : Hello) (peer : Address) (now : Time)
    (session : Uuid) (pin : Pin) : Outcome HandshakeFault Welcome :=
  match m.lockedOut? peer now with
  | some seconds => ⟨.error (.lockedOut peer seconds), m, registry, none⟩
  | none => m.welcome registry hello now session pin

/-! ## Answers -/

/-- Ends the pairing of a client whose session is closed, for a reason that the operator is told. -/
def failPairing (m : Admission) (registry : Registry) (id : Uuid) (now : Time) (reason : String)
    (fault : PairingFault) : Outcome PairingFault Uuid :=
  match registry.signal id .pairingFailed now with
  | .ok (_, failed) => ⟨.error fault, m, failed, some (.pairingFailed id reason)⟩
  | .error fault => ⟨.error (.registry fault), m, registry, none⟩

/-- Accepts the right answer. -/
def completePairing (m : Admission) (registry : Registry) (session id : Uuid) (now : Time) :
    Outcome PairingFault Uuid :=
  let m := m.closeSession session
  match registry.signal id .pinVerified now with
  | .ok (_, active) => ⟨.ok id, m.trust id, active, some (.pairingCompleted id)⟩
  | .error fault => ⟨.error (.registry fault), m, registry, none⟩

/-- Counts a wrong answer; the last one allowed closes the session and locks the address out. -/
def countWrong (m : Admission) (registry : Registry) (session : Uuid) (s : Session) (peer : Address)
    (now : Time) : Outcome PairingFault Uuid :=
  let attempts := s.attempts + 1
  match m.policy.maxAttempts - attempts with
  | 0 =>
    let m := m.closeSession session
    match Time.later? now m.policy.lockout with
    | none => ⟨.error .clockOverflow, m, registry, none⟩
    | some deadline =>
      let m := { m with lockouts := m.lockouts.insert peer deadline }
      m.failPairing registry s.client now "too many incorrect PINs" (.wrongPin 0)
  | left + 1 =>
    let m := { m with sessions := m.sessions.insert session { s with attempts } }
    match registry.signal s.client .pinMismatch now with
    | .ok (_, registry) => ⟨.error (.wrongPin (left + 1)), m, registry, none⟩
    | .error fault => ⟨.error (.registry fault), m, registry, none⟩

/-- Handles an answer from an address that is not locked out. A session whose client is not pairing
any more is closed; of a pairing client, age comes before content. -/
def judge (m : Admission) (registry : Registry) (session : Uuid) (answer : String) (peer : Address)
    (now : Time) : Outcome PairingFault Uuid :=
  match m.sessions.find? session with
  | none => ⟨.error .noSession, m, registry, none⟩
  | some s =>
    if registry.phase? s.client ≠ some .pairing then
      ⟨.error .expired, m.closeSession session, registry, none⟩
    else if m.policy.pinExpiry < Time.elapsed now s.openedAt then
      (m.closeSession session).failPairing registry s.client now "pairing session expired" .expired
    else if s.answer = answer then m.completePairing registry session s.client now
    else m.countWrong registry session s peer now

/-- Handles an answer. An address that is locked out changes nothing. -/
def submit (m : Admission) (registry : Registry) (session : Uuid) (answer : String) (peer : Address)
    (now : Time) : Outcome PairingFault Uuid :=
  match m.lockedOut? peer now with
  | some seconds => ⟨.error (.lockedOut seconds), m, registry, none⟩
  | none => m.judge registry session answer peer now

/-! ## Goodbye -/

/-- The signal for a peer that went away, where the phase has a move for one. -/
def closingSignal? : Phase → Option Signal
  | .active => some .peerClosed
  | .pairing => some .peerClosed
  | .connecting => some .handshakeTimedOut
  | .connected => none
  | .disconnected => none

/-- Handles a peer that went away. -/
def disconnect (m : Admission) (registry : Registry) (id : Uuid) (now : Time) :
    Outcome RegistryFault Unit :=
  let m := m.dropSessions id
  match registry.phase? id with
  | none => ⟨.error (.unknownClient id), m, registry, none⟩
  | some phase =>
    match closingSignal? phase with
    | none => ⟨.ok (), m, registry, none⟩
    | some signal =>
      match registry.signal id signal now with
      | .ok (_, closed) => ⟨.ok (), m, closed, some (.disconnected id)⟩
      | .error fault => ⟨.error fault, m, registry, none⟩

end Admission

end SharedDesk
