import SharedDesk.Lifecycle
import SharedDesk.Telemetry.Latency
import SharedDesk.Telemetry.Probe
import SharedDesk.Telemetry.RateWindow
import SharedDesk.Uuid
/-!
# What is known of one client

A client has a name, a phase with the time it was entered, and telemetry. `Client.enter` is the
one place where the phase changes: only a real change moves the time, activation starts the event
rate and the probes over, and a client that is gone or new has no probe on its way.
-/

namespace SharedDesk

/-- Events are counted in windows of one second. -/
def rateWidth : Duration := Duration.second

/-- What is known of one client. -/
structure Client where
  name : String
  phase : Phase
  /-- When the phase was entered. -/
  changedAt : Time
  /-- When the latest probe was sent. -/
  pingedAt : Option Time
  /-- When the latest answer to a probe came. -/
  pongedAt : Option Time
  latency : Latency
  events : RateWindow
  probes : ProbeTracker
deriving DecidableEq

/-- What others are shown of a client at a given time. -/
structure ClientView where
  id : Uuid
  name : String
  phase : Phase
  changedAt : Time
  pingedAt : Option Time
  pongedAt : Option Time
  meanMillis : Float32
  lastRoundTrip : Option Duration
  eventsPerSecond : Nat
  misses : Nat

namespace Client

/-- A client without a past. -/
def new (name : String) (phase : Phase) (now : Time) : Client :=
  { name, phase
    changedAt := now
    pingedAt := none
    pongedAt := none
    latency := Latency.none
    events := RateWindow.opening rateWidth now
    probes := ProbeTracker.fresh }

/-- What is shown of the client at `now`. -/
def view (c : Client) (id : Uuid) (now : Time) : ClientView :=
  { id
    name := c.name
    phase := c.phase
    changedAt := c.changedAt
    pingedAt := c.pingedAt
    pongedAt := c.pongedAt
    meanMillis := c.latency.meanMillis
    lastRoundTrip := c.latency.last?
    eventsPerSecond := c.events.rate now
    misses := c.probes.misses }

/-- Whether entering a phase from another one ends the probe on its way and the misses. -/
def endsProbes (origin target : Phase) : Bool :=
  target == .connecting || target == .disconnected || (target == .active && origin != .active)

/-- Puts the client into a phase at `now`. -/
def enter (c : Client) (phase : Phase) (now : Time) : Client :=
  { c with
    phase
    changedAt := if phase = c.phase then c.changedAt else now
    events := if phase = .active ∧ c.phase ≠ .active then c.events.restart now else c.events
    probes := if endsProbes c.phase phase then c.probes.reset else c.probes }

/-- Follows a signal at `now`. -/
def follow (c : Client) (signal : Signal) (now : Time) : Except IllegalMove Client :=
  match c.phase.follow signal with
  | .ok phase => .ok (c.enter phase now)
  | .error m => .error m

/-- A known client says hello again under a name; every phase but `connecting` starts over. -/
def greetAgain (c : Client) (name : String) (now : Time) : Client :=
  let named := { c with name }
  if c.phase = .connecting then named else named.enter .connecting now

/-- Takes telemetry in: perhaps a round trip, and a number of events. -/
def measure (c : Client) (roundTrip : Option Duration) (count : Nat) (now : Time) : Client :=
  { c with
    latency := match roundTrip with
      | some d => c.latency.record d
      | none => c.latency
    events := if 0 < count then c.events.record count now else c.events }

/-! ## Probes -/

/-- Sends an active client a probe, unless one is on its way. -/
def probe? (c : Client) (now : Time) : Option (UInt64 × Client) :=
  if c.phase = .active then
    (c.probes.send? now).map fun p => (p.1, { c with probes := p.2, pingedAt := some now })
  else none

/-- Gives the probe of an active client up as missed once it is old enough. The flag says whether
this was one miss too many, which disconnects the client. -/
def expireProbe (c : Client) (now : Time) (timeout : Duration) (threshold : Nat) : Client × Bool :=
  if c.phase = .active then
    match c.probes.expire? now timeout with
    | none => (c, false)
    | some probes =>
      let missed := { c with probes }
      if max threshold 1 ≤ probes.misses then (missed.enter .disconnected now, true)
      else (missed, false)
  else (c, false)

/-- Takes the answer to a probe: the round trip, if the probe was on its way. -/
def answer? (c : Client) (number : UInt64) (now : Time) : Option (Duration × Client) :=
  (c.probes.answer? number now).map fun p =>
    (p.1, { c with probes := p.2, pongedAt := some now, latency := c.latency.record p.1 })

end Client

end SharedDesk
