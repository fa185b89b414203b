import SharedDesk.Config
import SharedDesk.Toml.Line
/-!
# Settings as text

Every section is written with all its fields, in a fixed order. An empty list is written as a
setting; otherwise its items follow as tables, the screens right after their section and the
clients at the end. Whole numbers go up to the largest signed one of 64 bits.
-/

namespace SharedDesk

open Toml (Line Scalar Key)

/-- A setting whose value is a text. -/
def textLine (name text : String) : Line := .setting name (.string text)

/-- A setting whose value is a whole number. -/
def numberLine (name : String) (n : Int) : Line := .setting name (.integer n)

/-- The header of a section. -/
def sectionLine (name : String) : Line := .table ⟨[], name⟩

/-- The lines of the section. -/
def MasterSection.lines (s : MasterSection) : List Line :=
  [sectionLine "master", textLine "log_level" s.logLevel]

/-- The lines of the section. -/
def NetworkSection.lines (s : NetworkSection) : List Line :=
  [sectionLine "network", numberLine "control_port" s.controlPort.toNat,
    numberLine "input_port" s.inputPort.toNat, numberLine "discovery_port" s.discoveryPort.toNat,
    textLine "bind_address" s.bindAddress]

/-- The lines of one screen. -/
def placementLines (p : Placement) : List Line :=
  [.element ⟨["layout"], "clients"⟩, textLine "client_id" p.1.text,
    numberLine "x_offset" p.2.x.toInt, numberLine "y_offset" p.2.y.toInt,
    numberLine "width" p.2.width.toNat, numberLine "height" p.2.height.toNat]

/-- The lines of the section. -/
def LayoutSection.lines (s : LayoutSection) : List Line :=
  [sectionLine "layout", numberLine "master_screen_width" s.masterWidth.toNat,
    numberLine "master_screen_height" s.masterHeight.toNat] ++
  (if s.clients.isEmpty then [.setting "clients" .emptyList] else s.clients.flatMap placementLines)

/-- The lines of the section. -/
def LivenessSection.lines (s : LivenessSection) : List Line :=
  [sectionLine "liveness", numberLine "probe_interval_ms" s.probeIntervalMillis.toNat,
    numberLine "probe_timeout_ms" s.probeTimeoutMillis.toNat,
    numberLine "miss_threshold" s.missThreshold.toNat,
    numberLine "handshake_timeout_ms" s.handshakeTimeoutMillis.toNat,
    numberLine "absence_timeout_secs" s.absenceTimeoutSeconds.toNat]

/-- The lines of the section. -/
def PairingSection.lines (s : PairingSection) : List Line :=
  [sectionLine "pairing", numberLine "max_pin_attempts" s.maxPinAttempts.toNat,
    numberLine "pin_expiry_secs" s.pinExpirySeconds.toNat,
    numberLine "lockout_secs" s.lockoutSeconds.toNat]

/-- The lines of one client. -/
def KnownClient.lines (c : KnownClient) : List Line :=
  [.element ⟨[], "clients"⟩, textLine "client_id" c.id.text, textLine "name" c.name,
    .setting "trusted" (.boolean c.trusted)]

namespace Config

/-- All lines of the settings. -/
def lines (c : Config) : List Line :=
  (if c.clients.isEmpty then [.setting "clients" .emptyList] else []) ++ c.master.lines ++
    c.network.lines ++ c.layout.lines ++ c.liveness.lines ++ c.pairing.lines ++
    c.clients.flatMap KnownClient.lines

/-- The largest number that can be written. -/
def largestNumber : Nat := UInt64.size / 2 - 1

/-- Whether every number can be written. -/
def isWritable (c : Config) : Bool :=
  c.liveness.probeIntervalMillis.toNat ≤ largestNumber &&
    c.liveness.probeTimeoutMillis.toNat ≤ largestNumber &&
    c.liveness.handshakeTimeoutMillis.toNat ≤ largestNumber &&
    c.liveness.absenceTimeoutSeconds.toNat ≤ largestNumber &&
    c.pairing.pinExpirySeconds.toNat ≤ largestNumber &&
    c.pairing.lockoutSeconds.toNat ≤ largestNumber

/-- The text of the settings, if every number can be written. -/
def text? (c : Config) : Option String :=
  if c.isWritable then some (String.ofList (Line.render c.lines)) else none

end Config

end SharedDesk
