import SharedDesk.Address.Printer
import SharedDesk.Address.Reader
import SharedDesk.Text.Blank
import SharedDesk.Text.Unprintable
/-!
# Network settings

Three ports and the address to listen on. The ports are at least 1024 and differ from each other. A
running desk keeps the settings it started with; a change is staged and takes effect at the next
start, so `StagedNetwork.restartRequired` says whether the two differ.
-/

namespace SharedDesk

/-- What a port is for. -/
inductive PortUse
  | control
  | input
  | discovery
deriving DecidableEq, Repr

/-- The port's name within a sentence. -/
def PortUse.word : PortUse → String
  | control => "control"
  | input => "input"
  | discovery => "discovery"

/-- Why network settings are refused. -/
inductive NetworkFault
  | privilegedPort (use : PortUse) (port : UInt16)
  | duplicatePort (first second : PortUse) (port : UInt16)
  | badAddress (text : String)
deriving DecidableEq, Repr

/-- The lowest port that needs no privilege. -/
def lowestPort : UInt16 := 1024

/-- The wording of refused settings. -/
def NetworkFault.message : NetworkFault → String
  | privilegedPort use port =>
    use.word ++ " port " ++ toString port.toNat ++ " is in the privileged range (must be >= " ++
      toString lowestPort.toNat ++ ")"
  | duplicatePort a b port =>
    a.word ++ " and " ++ b.word ++ " ports must differ (both are " ++ toString port.toNat ++ ")"
  | badAddress text => "invalid bind address: " ++ Text.quoted text

/-- The ports and the address of the desk. -/
structure NetworkSettings where
  control : UInt16
  input : UInt16
  discovery : UInt16
  address : Address
deriving DecidableEq

namespace NetworkSettings

/-- The settings of a desk that nobody has configured. -/
def standard : NetworkSettings := ⟨24800, 24801, 24802, .anyV4⟩

instance : Inhabited NetworkSettings := ⟨standard⟩

/-- The ports with their uses. -/
def ports (s : NetworkSettings) : List (PortUse × UInt16) :=
  [(.control, s.control), (.input, s.input), (.discovery, s.discovery)]

/-- The first port that equals a later one, with that one. -/
def firstDuplicate? : List (PortUse × UInt16) → Option NetworkFault
  | [] => none
  | p :: rest =>
    match rest.find? fun q => q.2 == p.2 with
    | some q => some (.duplicatePort p.1 q.1 p.2)
    | none => firstDuplicate? rest

/-- Looks for a privileged port first, and then for two equal ones. -/
def validate (s : NetworkSettings) : Except NetworkFault Unit :=
  match s.ports.find? fun p => p.2 < lowestPort with
  | some p => .error (.privilegedPort p.1 p.2)
  | none =>
    match firstDuplicate? s.ports with
    | some fault => .error fault
    | none => .ok ()

/-- Reads the address, blanks around it aside, and then looks at the ports. -/
def ofParts (control input discovery : UInt16) (addressText : String) :
    Except NetworkFault NetworkSettings :=
  match Address.ofChars? (Text.trim addressText.toList) with
  | none => .error (.badAddress addressText)
  | some address =>
    let settings : NetworkSettings := ⟨control, input, discovery, address⟩
    match settings.validate with
    | .ok () => .ok settings
    | .error fault => .error fault

end NetworkSettings

/-- The settings in use, and those for the next start. -/
structure StagedNetwork where
  active : NetworkSettings
  staged : NetworkSettings
deriving DecidableEq

namespace StagedNetwork

/-- Nothing staged yet. -/
def starting (s : NetworkSettings) : StagedNetwork := ⟨s, s⟩

/-- Whether the next start would use other settings. -/
def restartRequired (n : StagedNetwork) : Bool := n.staged != n.active

/-- Stages settings without fault for the next start. -/
def stage (n : StagedNetwork) (s : NetworkSettings) : Except NetworkFault StagedNetwork :=
  match s.validate with
  | .ok () => .ok { n with staged := s }
  | .error fault => .error fault

end StagedNetwork

end SharedDesk
