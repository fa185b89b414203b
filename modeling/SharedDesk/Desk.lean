import SharedDesk.Config.File
import SharedDesk.Router
/-!
# The desk

The whole state of a running desk. `Desk.start` sets it up from stored settings, and every
operation gives its result and the desk afterwards. Nothing here looks at a clock or draws at
random: the time, the identifier of a new session and its PIN are given.
-/

namespace SharedDesk

/-- The state of a running desk. -/
structure Desk where
  registry : Registry
  layout : Layout
  network : StagedNetwork
  router : Router
  admission : Admission
  liveness : LivenessSettings
  config : Config
  /-- Where the settings are saved, if anywhere. -/
  file : Option ConfigFile
  /-- What the operator has not been told yet. -/
  notices : Channel Notice
  /-- Probes that have not been sent over the network yet. -/
  probes : Channel ProbeRequest
deriving DecidableEq

/-- Why an arrangement is not taken over, or not shown. -/
inductive ArrangementFault
  | invalid (fault : LayoutFault)
  | orphan (id : Uuid)
deriving DecidableEq

/-- The wording of a refused arrangement. -/
def ArrangementFault.message : ArrangementFault → String
  | invalid fault => "layout validation failed: " ++ fault.message
  | orphan id => "layout references unknown client " ++ id.text

namespace Desk

/-! ## Starting -/

/-- How many notices wait for the operator at most. -/
def noticeCapacity : Nat := 64

/-- The registry of the clients in the settings, where the first of two with one identifier
counts. -/
def knownClients (clients : List KnownClient) (now : Time) : Registry :=
  clients.foldl (fun r c => (r.register? c.id c.name now).getD r) .empty

/-- The arrangement in the settings, without the screens of unknown clients; if it has a fault, only
the master screen. -/
def storedLayout (s : LayoutSection) (known : Uuid → Bool) : Layout :=
  let bare := Layout.ofMaster s.masterWidth s.masterHeight
  match bare.replace known (s.clients.filter fun p => known p.1) with
  | .ok layout => layout
  | .error _ => bare

/-- Trust in the trusted clients of the settings. -/
def storedTrust (policy : PairingPolicy) (clients : List KnownClient) : Admission :=
  (clients.filter KnownClient.trusted).foldl (fun m c => m.trust c.id) (.ofPolicy policy)

/-- The desk that stored settings describe. A pairing may take as long as its PIN is good. -/
def start (config : Config) (file : Option ConfigFile) (probeCapacity : Nat) (now : Time) :
    Except NetworkFault Desk :=
  match config.network.settings with
  | .error fault => .error fault
  | .ok settings =>
    let registry := knownClients config.clients now
    let policy := config.pairing.policy
    .ok {
      registry, config, file
      layout := storedLayout config.layout registry.contains
      network := .starting settings
      router := .idle
      admission := storedTrust policy config.clients
      liveness := { config.liveness.settings with pairingTimeout := policy.pinExpiry }
      notices := .ofCapacity noticeCapacity
      probes := .ofCapacity probeCapacity }

/-! ## Letting clients in -/

/-- Takes the outcome of an admission over, and tells the operator. -/
def take {ε α : Type} (d : Desk) (o : Admission.Outcome ε α) : Except ε α × Desk :=
  (o.result, { d with
    admission := o.admission
    registry := o.registry
    notices := match o.notice with
      | some n => d.notices.offer n
      | none => d.notices })

/-- Handles a hello. -/
def hello (d : Desk) (hello : Hello) (peer : Address) (now : Time) (session : Uuid) (pin : Pin) :
    Except HandshakeFault Welcome × Desk :=
  d.take (d.admission.hello d.registry hello peer now session pin)

/-- Handles an answer to a PIN. -/
def submit (d : Desk) (session : Uuid) (answer : String) (peer : Address) (now : Time) :
    Except PairingFault Uuid × Desk :=
  d.take (d.admission.submit d.registry session answer peer now)

/-- Handles a peer that went away. -/
def disconnect (d : Desk) (id : Uuid) (now : Time) : Except RegistryFault Unit × Desk :=
  d.take (d.admission.disconnect d.registry id now)

/-! ## Keeping track -/

/-- Runs a probe round through the desk's queue. -/
def probeRound (d : Desk) (settings : LivenessSettings) (now : Time) : ProbeRound × Desk :=
  let (round, registry, probes) :=
    ProbeRound.run ProbeRound.throughQueue d.probes d.registry settings now
  (round, { d with registry, probes })

/-- Sweeps registry and layout. -/
def sweep (d : Desk) (timeouts : SweepTimeouts) (retain : Uuid → Bool) (now : Time) :
    SweepReport × Desk :=
  let (report, registry, layout) := sweepAll d.registry d.layout timeouts now retain
  (report, { d with registry, layout })

/-- Does what is due now and then: drops expired sessions and lapsed lockouts, sweeps, keeps trusted
clients, and drops the sessions of those who took too long. -/
def maintain (d : Desk) (now : Time) : SweepReport × Desk :=
  let purged := { d with admission := (d.admission.purge now).2 }
  let (report, swept) := purged.sweep d.liveness.sweepTimeouts purged.admission.isTrusted now
  (report, { swept with
    admission := report.timedOut.foldl (fun m id => (m.abandonPairing id).2) swept.admission })

/-! ## Screens and input -/

/-- Takes an arrangement of known clients over. -/
def arrange (d : Desk) (candidate : List Placement) : Except ArrangementFault Desk :=
  match d.layout.replace d.registry.contains candidate with
  | .ok layout => .ok { d with layout }
  | .error fault => .error (.invalid fault)

/-- Checks that every screen's client is known. -/
def verify (d : Desk) : Except ArrangementFault Unit :=
  match d.layout.orphans d.registry.contains with
  | id :: _ => .error (.orphan id)
  | [] => .ok ()

/-- Routes a pointer event. -/
def routePointer (d : Desk) (x y : Int) (now : Time) : Target × Desk :=
  let (target, router) := d.router.routePointer d.layout d.registry x y now
  (target, { d with router })

/-- Routes an event that follows the pointer. -/
def routeFocused (d : Desk) (now : Time) : Target × Desk :=
  let (target, router) := d.router.routeFocused d.registry now
  (target, { d with router })

/-- Takes the counts of routed events over into the registry. -/
def flush (d : Desk) : Desk :=
  let (router, registry) := d.router.flush d.registry
  { d with router, registry }

/-! ## Saving -/

/-- Changes the settings, and saves them if there is a place for them. The change stays when saving
fails. -/
def configure (d : Desk) (change : Config → Config) : Except ConfigFault Unit × Desk :=
  let config := change d.config
  match d.file with
  | none => (.ok (), { d with config })
  | some file =>
    match file.save config with
    | .ok file => (.ok (), { d with config, file := some file })
    | .error fault => (.error fault, { d with config })

/-- The clients worth keeping: trusted, or with a screen. -/
def worthKeeping (d : Desk) : List KnownClient :=
  (d.registry.clients.rows.filter fun row =>
    d.admission.isTrusted row.1 || d.layout.screens.contains row.1).map fun row =>
    ⟨row.1, row.2.name, d.admission.isTrusted row.1⟩

/-- Saves the clients worth keeping, and the screens. -/
def persist (d : Desk) : Except ConfigFault Unit × Desk :=
  d.configure fun c =>
    { c with clients := d.worthKeeping, layout := { c.layout with clients := d.layout.placements } }

end Desk

end SharedDesk
