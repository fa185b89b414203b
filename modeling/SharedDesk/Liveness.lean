import SharedDesk.Channel
import SharedDesk.Layout
import SharedDesk.Registry
/-!
# Keeping track of who is there

A probe round gives old probes up, sends new ones, and hands them to whatever carries them. A sweep
drops absent clients from the registry and their screens from the layout.
-/

namespace SharedDesk

/-- How often clients are probed, and how long they may take. -/
structure LivenessSettings where
  probeInterval : Duration
  probeTimeout : Duration
  missThreshold : Nat
  handshakeTimeout : Duration
  pairingTimeout : Duration
  absenceTimeout : Duration
deriving DecidableEq, Repr

namespace LivenessSettings

/-- The settings of a desk that nobody has configured. -/
def standard : LivenessSettings :=
  { probeInterval := Duration.ofSeconds 1
    probeTimeout := Duration.ofSeconds 3
    missThreshold := 3
    handshakeTimeout := Duration.ofSeconds 10
    pairingTimeout := Duration.ofSeconds 60
    absenceTimeout := Duration.ofSeconds 300 }

instance : Inhabited LivenessSettings := ⟨standard⟩

/-- The settings that concern a sweep. -/
def sweepTimeouts (s : LivenessSettings) : SweepTimeouts :=
  ⟨s.handshakeTimeout, s.pairingTimeout, s.absenceTimeout⟩

end LivenessSettings

/-- A probe to be sent: the client and the probe's number. -/
abbrev ProbeRequest := Uuid × UInt64

/-- The wording of a probe that its queue did not take. -/
def probeRefusal (fault : ChannelFault) : String := "probe queue: " ++ fault.message

/-- What a probe round did. -/
structure ProbeRound where
  sent : List ProbeRequest
  failed : List Uuid
  disconnected : List Uuid
deriving DecidableEq

namespace ProbeRound

/-- Hands requests to a carrier, one after the other. `send` says whether the carrier took a
request; a refused one does not keep the others from being sent. -/
def deliver {σ : Type} (send : σ → ProbeRequest → Bool × σ) :
    σ → List ProbeRequest → List ProbeRequest × List Uuid × σ
  | carrier, [] => ([], [], carrier)
  | carrier, request :: rest =>
    let (taken, carrier) := send carrier request
    let (sent, failed, carrier) := deliver send carrier rest
    if taken then (request :: sent, failed, carrier) else (sent, request.1 :: failed, carrier)

/-- Runs a probe round at `now`. -/
def run {σ : Type} (send : σ → ProbeRequest → Bool × σ) (carrier : σ) (registry : Registry)
    (settings : LivenessSettings) (now : Time) : ProbeRound × Registry × σ :=
  let (disconnected, registry) :=
    registry.expireProbes now settings.probeTimeout settings.missThreshold
  let (requests, registry) := registry.startProbes now
  let (sent, failed, carrier) := deliver send carrier requests
  (⟨sent, failed, disconnected⟩, registry, carrier)

/-- A queue as a carrier. -/
def throughQueue (queue : Channel ProbeRequest) (request : ProbeRequest) :
    Bool × Channel ProbeRequest :=
  match queue.push request with
  | .ok queue => (true, queue)
  | .error _ => (false, queue)

end ProbeRound

/-- Sweeps the registry at `now`, and the layout of the clients that went. -/
def sweepAll (registry : Registry) (layout : Layout) (timeouts : SweepTimeouts) (now : Time)
    (retain : Uuid → Bool) : SweepReport × Registry × Layout :=
  let (report, registry) := registry.sweep now timeouts retain
  (report, registry, if report.removed.isEmpty then layout else layout.prune registry.contains)

end SharedDesk
