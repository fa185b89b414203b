import SharedDesk.Config
import SharedDesk.Toml.Document
import SharedDesk.Uuid.Reader
/-!
# Settings from a tree of values

A section is a table, or a list of its fields in their order. Names that mean nothing here are
ignored, and so are items of a list beyond the last field. A field that is missing takes its
standard value; the fields of a client and of a screen have none, but for the trust in a client.
-/

namespace SharedDesk

open Toml (Node Entries)

namespace Toml.Node

/-- The values of a record's fields, in the order of their names. A date is a record without any. -/
def fields? (names : List String) : Node → Option (List (Option Node))
  | table _ entries => some (names.map fun name => entries.lookup name)
  | array items => some ((List.range names.length).map fun i => items[i]?)
  | tables items => some ((List.range names.length).map fun i => (items[i]?).map (table .header))
  | dateTime => some (names.map fun _ => none)
  | _ => none

/-- The items of a list. -/
def items? : Node → Option (List Node)
  | array items => some items
  | tables items => some (items.map (table .header))
  | _ => none

/-- The text of a string. -/
def string? : Node → Option String
  | string text => some text
  | _ => none

/-- The value of a truth value. -/
def boolean? : Node → Option Bool
  | boolean b => some b
  | _ => none

/-- A whole number below a limit. -/
def natBelow? (limit : Nat) : Node → Option Nat
  | integer n => if 0 ≤ n ∧ n < limit then some n.toNat else none
  | _ => none

/-- A whole number of 8 bits. -/
def uint8? (n : Node) : Option UInt8 := (n.natBelow? UInt8.size).map UInt8.ofNat

/-- A whole number of 16 bits. -/
def uint16? (n : Node) : Option UInt16 := (n.natBelow? UInt16.size).map UInt16.ofNat

/-- A whole number of 32 bits. -/
def uint32? (n : Node) : Option UInt32 := (n.natBelow? UInt32.size).map UInt32.ofNat

/-- A whole number of 64 bits. -/
def uint64? (n : Node) : Option UInt64 := (n.natBelow? UInt64.size).map UInt64.ofNat

/-- A whole number of 32 bits with a sign. -/
def int32? : Node → Option Int32
  | integer n => if Int32.minValue.toInt ≤ n ∧ n ≤ Int32.maxValue.toInt then some (Int32.ofInt n) else none
  | _ => none

/-- An identifier: any of its spellings, or a list that starts with its sixteen bytes. -/
def uuid? : Node → Option Uuid
  | string text => Uuid.ofChars? text.toList
  | array items =>
    if 16 ≤ items.length then ((items.take 16).mapM uint8?).map Uuid.ofBytes else none
  | _ => none

end Toml.Node

/-- A field that takes a standard value when it is missing. -/
def fieldOr {α : Type} (standard : α) (read : Node → Option α) : Option Node → Option α
  | some node => read node
  | none => some standard

/-- The section that a node describes. -/
def MasterSection.ofNode? (n : Node) : Option MasterSection := do
  match ← n.fields? ["log_level"] with
  | [level] => some ⟨← fieldOr ({} : MasterSection).logLevel Node.string? level⟩
  | _ => none

/-- The section that a node describes. -/
def NetworkSection.ofNode? (n : Node) : Option NetworkSection := do
  let standard : NetworkSection := {}
  match ← n.fields? ["control_port", "input_port", "discovery_port", "bind_address"] with
  | [control, input, discovery, address] =>
    some ⟨← fieldOr standard.controlPort Node.uint16? control,
      ← fieldOr standard.inputPort Node.uint16? input,
      ← fieldOr standard.discoveryPort Node.uint16? discovery,
      ← fieldOr standard.bindAddress Node.string? address⟩
  | _ => none

/-- The placement that a node describes. -/
def placementOfNode? (n : Node) : Option Placement := do
  match ← n.fields? ["client_id", "x_offset", "y_offset", "width", "height"] with
  | [id, x, y, width, height] =>
    some (← (← id).uuid?,
      ⟨← (← x).int32?, ← (← y).int32?, ← (← width).uint32?, ← (← height).uint32?⟩)
  | _ => none

/-- The section that a node describes. -/
def LayoutSection.ofNode? (n : Node) : Option LayoutSection := do
  let standard : LayoutSection := {}
  match ← n.fields? ["master_screen_width", "master_screen_height", "clients"] with
  | [width, height, clients] =>
    some ⟨← fieldOr standard.masterWidth Node.uint32? width,
      ← fieldOr standard.masterHeight Node.uint32? height,
      ← fieldOr standard.clients (fun n => do (← n.items?).mapM placementOfNode?) clients⟩
  | _ => none

/-- The section that a node describes. -/
def LivenessSection.ofNode? (n : Node) : Option LivenessSection := do
  let standard : LivenessSection := {}
  match ← n.fields? ["probe_interval_ms", "probe_timeout_ms", "miss_threshold",
      "handshake_timeout_ms", "absence_timeout_secs"] with
  | [interval, timeout, threshold, handshake, absence] =>
    some ⟨← fieldOr standard.probeIntervalMillis Node.uint64? interval,
      ← fieldOr standard.probeTimeoutMillis Node.uint64? timeout,
      ← fieldOr standard.missThreshold Node.uint32? threshold,
      ← fieldOr standard.handshakeTimeoutMillis Node.uint64? handshake,
      ← fieldOr standard.absenceTimeoutSeconds Node.uint64? absence⟩
  | _ => none

/-- The section that a node describes. -/
def PairingSection.ofNode? (n : Node) : Option PairingSection := do
  let standard : PairingSection := {}
  match ← n.fields? ["max_pin_attempts", "pin_expiry_secs", "lockout_secs"] with
  | [attempts, expiry, lockout] =>
    some ⟨← fieldOr standard.maxPinAttempts Node.uint32? attempts,
      ← fieldOr standard.pinExpirySeconds Node.uint64? expiry,
      ← fieldOr standard.lockoutSeconds Node.uint64? lockout⟩
  | _ => none

/-- The client that a node describes. -/
def KnownClient.ofNode? (n : Node) : Option KnownClient := do
  match ← n.fields? ["client_id", "name", "trusted"] with
  | [id, name, trusted] =>
    some ⟨← (← id).uuid?, ← (← name).string?, ← fieldOr false Node.boolean? trusted⟩
  | _ => none

namespace Config

/-- The settings that a node describes. -/
def ofNode? (n : Node) : Option Config := do
  match ← n.fields? ["master", "network", "layout", "liveness", "pairing", "clients"] with
  | [master, network, layout, liveness, pairing, clients] =>
    some ⟨← fieldOr {} MasterSection.ofNode? master,
      ← fieldOr {} NetworkSection.ofNode? network,
      ← fieldOr {} LayoutSection.ofNode? layout,
      ← fieldOr {} LivenessSection.ofNode? liveness,
      ← fieldOr {} PairingSection.ofNode? pairing,
      ← fieldOr [] (fun n => do (← n.items?).mapM KnownClient.ofNode?) clients⟩
  | _ => none

/-- The settings that a document describes. -/
def ofDocument? (d : Toml.Document) : Option Config := do ofNode? (.table .header (← d.entries?))

/-- The settings that a text describes. -/
def ofText? (text : String) : Option Config := do ofDocument? (← Toml.Document.read? text)

end Config

end SharedDesk
