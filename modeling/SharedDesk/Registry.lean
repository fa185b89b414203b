import SharedDesk.Registry.Client
/-!
# The registry of clients

One record for each client that is known, by identifier. A record appears when a client says hello
for the first time (`Registry.greet`) or when the settings name it (`Registry.register?`), and goes
when it is forgotten or absent for too long (`Registry.sweep`).

What is shown of a client is made when it is asked for (`Registry.view?`). The operations on one client
give the records alone: no view is made on the way out.
-/

namespace SharedDesk

/-- The clients that are known. -/
structure Registry where
  clients : Table Uuid Client
deriving DecidableEq

/-- Why the registry refuses. -/
inductive RegistryFault
  | unknownClient (id : Uuid)
  | illegalMove (id : Uuid) (move : IllegalMove)
deriving DecidableEq

/-- The wording of a refusal. -/
def RegistryFault.message : RegistryFault → String
  | unknownClient id => "client not found: " ++ id.text
  | illegalMove id move => "client " ++ id.text ++ ": " ++ move.message

/-- How long clients may take before a sweep acts on them. -/
structure SweepTimeouts where
  handshake : Duration
  pairing : Duration
  absence : Duration
deriving DecidableEq, Repr

/-- Whom a sweep acted on. -/
structure SweepReport where
  timedOut : List Uuid
  removed : List Uuid
deriving DecidableEq

namespace Client

/-- The signal that ends a handshake that takes too long. -/
def timeoutSignal : Phase → Signal
  | .pairing => .pairingFailed
  | _ => .handshakeTimedOut

/-- How long a client may stay in a phase before its connection is open. -/
def deadline (timeouts : SweepTimeouts) : Phase → Duration
  | .pairing => timeouts.pairing
  | _ => timeouts.handshake

/-- Ends a handshake that takes too long. The phase `connected` has no move for it, and stays. -/
def timeOut? (c : Client) (now : Time) (timeouts : SweepTimeouts) : Option Client :=
  if c.phase.isHandshaking ∧ deadline timeouts c.phase ≤ Time.elapsed now c.changedAt then
    match c.follow (timeoutSignal c.phase) now with
    | .ok c => some c
    | .error _ => none
  else none

/-- Whether a client has been gone for too long. -/
def isAbsent (c : Client) (now : Time) (timeouts : SweepTimeouts) : Bool :=
  c.phase == .disconnected && timeouts.absence ≤ Time.elapsed now c.changedAt

end Client

namespace Registry

/-- No client known. -/
def empty : Registry := ⟨.empty⟩

instance : Inhabited Registry := ⟨empty⟩

/-! ## Looking things up -/

/-- The record of a client. -/
def find? (r : Registry) (id : Uuid) : Option Client := r.clients.find? id

/-- Whether a client is known. -/
def contains (r : Registry) (id : Uuid) : Bool := r.clients.contains id

/-- The phase of a client. -/
def phase? (r : Registry) (id : Uuid) : Option Phase := (r.find? id).map Client.phase

/-- Whether a client is known and active. -/
def isActive (r : Registry) (id : Uuid) : Bool := r.phase? id == some .active

/-- What is shown of a client at `now`. -/
def view? (r : Registry) (id : Uuid) (now : Time) : Option ClientView :=
  (r.find? id).map fun c => c.view id now

/-- What is shown of all clients at `now`, ascending. -/
def views (r : Registry) (now : Time) : List ClientView :=
  r.clients.rows.map fun row => row.2.view row.1 now

/-- The event rate of a client at `now`. -/
def rate? (r : Registry) (id : Uuid) (now : Time) : Option Nat :=
  (r.find? id).map fun c => c.events.rate now

/-- Stores the record of a client. -/
def store (r : Registry) (id : Uuid) (c : Client) : Registry := ⟨r.clients.insert id c⟩

/-! ## One client -/

/-- A client says hello under a name; one that is not known yet gets a record. No view of the client is
made on the way out. It could matter for the mean of round trips alone (`Latency.meanMillis`), whose sum
might outgrow spans that have an upper end. -/
def greet (r : Registry) (id : Uuid) (name : String) (now : Time) : Registry :=
  match r.find? id with
  | some c => r.store id (c.greetAgain name now)
  | none => r.store id (.new name .connecting now)

/-- Gives a client of the settings a record, unless it has one. -/
def register? (r : Registry) (id : Uuid) (name : String) (now : Time) : Option Registry :=
  if r.contains id then none else some (r.store id (.new name .disconnected now))

/-- Passes a signal to a client. -/
def signal (r : Registry) (id : Uuid) (s : Signal) (now : Time) :
    Except RegistryFault (Phase × Registry) :=
  match r.find? id with
  | none => .error (.unknownClient id)
  | some c =>
    match c.follow s now with
    | .ok c' => .ok (c'.phase, r.store id c')
    | .error move => .error (.illegalMove id move)

/-- Takes telemetry of a client in. -/
def measure (r : Registry) (id : Uuid) (roundTrip : Option Duration) (count : Nat) (now : Time) :
    Except RegistryFault Registry :=
  match r.find? id with
  | none => .error (.unknownClient id)
  | some c => .ok (r.store id (c.measure roundTrip count now))

/-- Takes the answer to a probe: the round trip, if that probe was on its way. -/
def answer (r : Registry) (id : Uuid) (number : UInt64) (now : Time) :
    Except RegistryFault (Option Duration × Registry) :=
  match r.find? id with
  | none => .error (.unknownClient id)
  | some c =>
    match c.answer? number now with
    | some (d, c') => .ok (some d, r.store id c')
    | none => .ok (none, r)

/-- Drops the record of a client and gives it back as it was kept. As in `greet`, no view of it is made. -/
def forget (r : Registry) (id : Uuid) : Except RegistryFault (Client × Registry) :=
  match r.find? id with
  | none => .error (.unknownClient id)
  | some c => .ok (c, ⟨r.clients.erase id⟩)

/-! ## All clients -/

/-- Sends every active client a probe that has none on its way. -/
def startProbes (r : Registry) (now : Time) : List (Uuid × UInt64) × Registry :=
  (r.clients.rows.filterMap fun row => (row.2.probe? now).map fun p => (row.1, p.1),
    ⟨r.clients.map fun _ c => ((c.probe? now).map Prod.snd).getD c⟩)

/-- Gives old probes up as missed and disconnects the clients that missed too many in a row. -/
def expireProbes (r : Registry) (now : Time) (timeout : Duration) (threshold : Nat) :
    List Uuid × Registry :=
  ((r.clients.rows.filter fun row => (row.2.expireProbe now timeout threshold).2).map Prod.fst,
    ⟨r.clients.map fun _ c => (c.expireProbe now timeout threshold).1⟩)

/-- Ends the handshakes that take too long, and then drops the clients that have been gone for too
long, other than those to be retained. -/
def sweep (r : Registry) (now : Time) (timeouts : SweepTimeouts) (retain : Uuid → Bool) :
    SweepReport × Registry :=
  let ended := r.clients.map fun _ c => (c.timeOut? now timeouts).getD c
  let goes := fun (id : Uuid) (c : Client) => c.isAbsent now timeouts && !retain id
  (⟨(r.clients.rows.filter fun row => (row.2.timeOut? now timeouts).isSome).map Prod.fst,
      (ended.rows.filter fun row => goes row.1 row.2).map Prod.fst⟩,
    ⟨ended.filter fun id c => !goes id c⟩)

end Registry

end SharedDesk
