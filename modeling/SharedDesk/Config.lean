import SharedDesk.Admission
import SharedDesk.Liveness
import SharedDesk.Network
/-!
# What is kept in the settings file

The settings have one section for each concern, and the list of known clients. Every field of a
section has a value for when nobody has set it. The sections turn into the settings that the
parts of the desk work with.
-/

namespace SharedDesk

/-- The section about the master itself. -/
structure MasterSection where
  logLevel : String := "info"
deriving DecidableEq

/-- The section about the network. The address is kept as it was written. -/
structure NetworkSection where
  controlPort : UInt16 := 24800
  inputPort : UInt16 := 24801
  discoveryPort : UInt16 := 24802
  bindAddress : String := "0.0.0.0"
deriving DecidableEq

/-- The section about the screens. -/
structure LayoutSection where
  masterWidth : UInt32 := 1920
  masterHeight : UInt32 := 1080
  clients : List Placement := []
deriving DecidableEq

/-- The section about probes and timeouts. -/
structure LivenessSection where
  probeIntervalMillis : UInt64 := 1000
  probeTimeoutMillis : UInt64 := 3000
  missThreshold : UInt32 := 3
  handshakeTimeoutMillis : UInt64 := 10000
  absenceTimeoutSeconds : UInt64 := 300
deriving DecidableEq

/-- The section about pairing. -/
structure PairingSection where
  maxPinAttempts : UInt32 := 3
  pinExpirySeconds : UInt64 := 60
  lockoutSeconds : UInt64 := 60
deriving DecidableEq

/-- A client that is known across restarts. -/
structure KnownClient where
  id : Uuid
  name : String
  trusted : Bool
deriving DecidableEq

/-- All settings. -/
structure Config where
  master : MasterSection := {}
  network : NetworkSection := {}
  layout : LayoutSection := {}
  liveness : LivenessSection := {}
  pairing : PairingSection := {}
  clients : List KnownClient := []
deriving DecidableEq

instance : Inhabited Config := ⟨{}⟩

/-- The network settings that the section describes, if they are valid. -/
def NetworkSection.settings (s : NetworkSection) : Except NetworkFault NetworkSettings :=
  NetworkSettings.ofParts s.controlPort s.inputPort s.discoveryPort s.bindAddress

/-- The section that describes network settings. -/
def NetworkSection.ofSettings (s : NetworkSettings) : NetworkSection :=
  ⟨s.control, s.input, s.discovery, s.address.text⟩

/-- The liveness settings that the section describes. Probes are at least a millisecond apart. -/
def LivenessSection.settings (s : LivenessSection) : LivenessSettings :=
  { LivenessSettings.standard with
    probeInterval := Duration.ofMillis (max s.probeIntervalMillis.toNat 1)
    probeTimeout := Duration.ofMillis s.probeTimeoutMillis.toNat
    missThreshold := s.missThreshold.toNat
    handshakeTimeout := Duration.ofMillis s.handshakeTimeoutMillis.toNat
    absenceTimeout := Duration.ofSeconds s.absenceTimeoutSeconds.toNat }

/-- The rules of pairing that the section describes. There is at least one attempt. -/
def PairingSection.policy (s : PairingSection) : PairingPolicy :=
  { maxAttempts := max s.maxPinAttempts.toNat 1
    pinExpiry := Duration.ofSeconds s.pinExpirySeconds.toNat
    lockout := Duration.ofSeconds s.lockoutSeconds.toNat }

end SharedDesk
