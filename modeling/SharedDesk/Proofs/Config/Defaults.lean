import SharedDesk.Config.File
import SharedDesk.Proofs.Config.Outline
import SharedDesk.Proofs.Toml.Removal
import SharedDesk.Proofs.Uuid.Spelling
/-!
# Missing parts take their standard values

What stands in a section is read field by field, and a field that is missing takes its standard value, whatever else is
missing. So of the outline of settings without any of its parts the same settings are read, with standard values for
exactly these parts, unless an item of a list is there without one of its fields that have none (`ofNode?_left`). The
same holds of a saved file with the lines of these parts cut out (`load_cut`).
-/

namespace SharedDesk

open Toml (Cut Key Line Listing Node Part Setting Spot settingEntries)

variable {c : Config} {gone : Spot → Bool}

/-! ## What missing parts stand for -/

/-- The section with standard values for the fields that go. -/
def MasterSection.without (goes : String → Bool) (s : MasterSection) : MasterSection :=
  ⟨if goes "log_level" then ({} : MasterSection).logLevel else s.logLevel⟩

/-- The section with standard values for the fields that go. -/
def NetworkSection.without (goes : String → Bool) (s : NetworkSection) : NetworkSection where
  controlPort := if goes "control_port" then ({} : NetworkSection).controlPort else s.controlPort
  inputPort := if goes "input_port" then ({} : NetworkSection).inputPort else s.inputPort
  discoveryPort := if goes "discovery_port" then ({} : NetworkSection).discoveryPort else s.discoveryPort
  bindAddress := if goes "bind_address" then ({} : NetworkSection).bindAddress else s.bindAddress

/-- The section with standard values for the fields that go. -/
def LayoutSection.without (goes : String → Bool) (s : LayoutSection) : LayoutSection where
  masterWidth := if goes "master_screen_width" then ({} : LayoutSection).masterWidth else s.masterWidth
  masterHeight := if goes "master_screen_height" then ({} : LayoutSection).masterHeight else s.masterHeight
  clients := if goes "clients" then ({} : LayoutSection).clients else s.clients

/-- The section with standard values for the fields that go. -/
def LivenessSection.without (goes : String → Bool) (s : LivenessSection) : LivenessSection where
  probeIntervalMillis :=
    if goes "probe_interval_ms" then ({} : LivenessSection).probeIntervalMillis else s.probeIntervalMillis
  probeTimeoutMillis :=
    if goes "probe_timeout_ms" then ({} : LivenessSection).probeTimeoutMillis else s.probeTimeoutMillis
  missThreshold := if goes "miss_threshold" then ({} : LivenessSection).missThreshold else s.missThreshold
  handshakeTimeoutMillis :=
    if goes "handshake_timeout_ms" then ({} : LivenessSection).handshakeTimeoutMillis else s.handshakeTimeoutMillis
  absenceTimeoutSeconds :=
    if goes "absence_timeout_secs" then ({} : LivenessSection).absenceTimeoutSeconds else s.absenceTimeoutSeconds

/-- The section with standard values for the fields that go. -/
def PairingSection.without (goes : String → Bool) (s : PairingSection) : PairingSection where
  maxPinAttempts := if goes "max_pin_attempts" then ({} : PairingSection).maxPinAttempts else s.maxPinAttempts
  pinExpirySeconds := if goes "pin_expiry_secs" then ({} : PairingSection).pinExpirySeconds else s.pinExpirySeconds
  lockoutSeconds := if goes "lockout_secs" then ({} : PairingSection).lockoutSeconds else s.lockoutSeconds

/-- The client, who is not trusted when the trust goes. -/
def KnownClient.without (goes : String → Bool) (k : KnownClient) : KnownClient :=
  { k with trusted := if goes "trusted" then false else k.trusted }

/-- The list of screens in the settings. -/
def screenList : Key := ⟨["layout"], "clients"⟩

/-- The list of clients in the settings. -/
def clientList : Key := ⟨[], "clients"⟩

/-- The settings with standard values for the sections and fields that go. -/
def Config.without (gone : Spot → Bool) (c : Config) : Config where
  master := if gone (.part "master") then {} else c.master.without fun name => gone (.field "master" name)
  network := if gone (.part "network") then {} else c.network.without fun name => gone (.field "network" name)
  layout := if gone (.part "layout") then {} else c.layout.without fun name => gone (.field "layout" name)
  liveness := if gone (.part "liveness") then {} else c.liveness.without fun name => gone (.field "liveness" name)
  pairing := if gone (.part "pairing") then {} else c.pairing.without fun name => gone (.field "pairing" name)
  clients := if gone (.part "clients") then []
    else c.clients.mapIdx fun i k => k.without fun name => gone (.item clientList i name)

/-- The fields of a screen. None has a standard value. -/
def screenNames : List String := ["client_id", "x_offset", "y_offset", "width", "height"]

/-- The fields of a client that have no standard value. -/
def clientNames : List String := ["client_id", "name"]

/-- None of the items of a list lacks a field of these names. -/
def NoneLacks (gone : Spot → Bool) (list : Key) (count : Nat) (names : List String) : Prop :=
  ∀ i < count, ∀ name ∈ names, gone (.item list i name) = false

instance (list : Key) (count : Nat) (names : List String) : Decidable (NoneLacks gone list count names) :=
  inferInstanceAs (Decidable (∀ i < count, ∀ name ∈ names, gone (.item list i name) = false))

/-- Where the screens stay, none lacks a field. -/
def LayoutSection.Complete (gone : Spot → Bool) (s : LayoutSection) : Prop :=
  gone (.field "layout" "clients") = false → NoneLacks gone screenList s.clients.length screenNames

instance (s : LayoutSection) : Decidable (s.Complete gone) :=
  inferInstanceAs (Decidable (gone (.field "layout" "clients") = false →
    NoneLacks gone screenList s.clients.length screenNames))

/-- No screen and no client that stays lacks a field without a standard value. -/
def Config.Complete (gone : Spot → Bool) (c : Config) : Prop :=
  (gone (.part "layout") = false → c.layout.Complete gone) ∧
    (gone (.part "clients") = false → NoneLacks gone clientList c.clients.length clientNames)

instance (c : Config) : Decidable (c.Complete gone) :=
  inferInstanceAs (Decidable ((gone (.part "layout") = false → c.layout.Complete gone) ∧
    (gone (.part "clients") = false → NoneLacks gone clientList c.clients.length clientNames)))

/-! ## Reading one value -/

section Values

variable {n : Nat} {limit : Nat}

theorem natBelow?_natCast (h : n < limit) : Node.natBelow? limit (.integer n) = some n := by
  rw [Node.natBelow?, if_pos ⟨Int.natCast_nonneg n, Int.ofNat_lt.2 h⟩, Int.toNat_natCast]

theorem uint16?_toNat (n : UInt16) : Node.uint16? (.integer n.toNat) = some n := by
  rw [Node.uint16?, natBelow?_natCast n.toNat_lt_size, Option.map_some, UInt16.ofNat_toNat]

theorem uint32?_toNat (n : UInt32) : Node.uint32? (.integer n.toNat) = some n := by
  rw [Node.uint32?, natBelow?_natCast n.toNat_lt_size, Option.map_some, UInt32.ofNat_toNat]

theorem uint64?_toNat (n : UInt64) : Node.uint64? (.integer n.toNat) = some n := by
  rw [Node.uint64?, natBelow?_natCast n.toNat_lt_size, Option.map_some, UInt64.ofNat_toNat]

theorem int32?_toInt (n : Int32) : Node.int32? (.integer n.toInt) = some n := by
  rw [Node.int32?, if_pos ⟨n.minValue_le_toInt, n.toInt_le⟩, Int32.ofInt_toInt]

theorem uuid?_text (id : Uuid) : Node.uuid? (.string id.text) = some id := by
  rw [Node.uuid?, Uuid.text, String.toList_ofList, Uuid.ofChars?_chars]

theorem string?_string (text : String) : Node.string? (.string text) = some text := rfl

theorem boolean?_boolean (b : Bool) : Node.boolean? (.boolean b) = some b := rfl

end Values

/-! ## Reading one section -/

section Sections

variable {n : Node}

theorem MasterSection.ofNode?_eq {s : MasterSection} {level : Option Node}
    (hfields : n.fields? ["log_level"] = some [level])
    (hlevel : fieldOr ({} : MasterSection).logLevel Node.string? level = some s.logLevel) : ofNode? n = some s := by
  simp [ofNode?, hfields, hlevel]

theorem NetworkSection.ofNode?_eq {s : NetworkSection} {control input discovery address : Option Node}
    (hfields : n.fields? ["control_port", "input_port", "discovery_port", "bind_address"] =
      some [control, input, discovery, address])
    (hcontrol : fieldOr ({} : NetworkSection).controlPort Node.uint16? control = some s.controlPort)
    (hinput : fieldOr ({} : NetworkSection).inputPort Node.uint16? input = some s.inputPort)
    (hdiscovery : fieldOr ({} : NetworkSection).discoveryPort Node.uint16? discovery = some s.discoveryPort)
    (haddress : fieldOr ({} : NetworkSection).bindAddress Node.string? address = some s.bindAddress) :
    ofNode? n = some s := by
  simp [ofNode?, hfields, hcontrol, hinput, hdiscovery, haddress]

theorem LayoutSection.ofNode?_eq {w h : UInt32} {screens : Option (List Placement)}
    {width height clients : Option Node}
    (hfields : n.fields? ["master_screen_width", "master_screen_height", "clients"] = some [width, height, clients])
    (hwidth : fieldOr ({} : LayoutSection).masterWidth Node.uint32? width = some w)
    (hheight : fieldOr ({} : LayoutSection).masterHeight Node.uint32? height = some h)
    (hclients : fieldOr ({} : LayoutSection).clients (fun n => do (← n.items?).mapM placementOfNode?) clients =
      screens) :
    ofNode? n = screens.map fun screens => ⟨w, h, screens⟩ := by
  rw [ofNode?, hfields]
  dsimp only [Option.bind_eq_bind, Option.bind_some]
  rw [hwidth, hheight, Option.bind_some, Option.bind_some, Option.map_eq_bind]
  exact congrArg (Option.bind · _) hclients

theorem LivenessSection.ofNode?_eq {s : LivenessSection} {interval timeout threshold handshake absence : Option Node}
    (hfields : n.fields? ["probe_interval_ms", "probe_timeout_ms", "miss_threshold", "handshake_timeout_ms",
      "absence_timeout_secs"] = some [interval, timeout, threshold, handshake, absence])
    (hinterval : fieldOr ({} : LivenessSection).probeIntervalMillis Node.uint64? interval =
      some s.probeIntervalMillis)
    (htimeout : fieldOr ({} : LivenessSection).probeTimeoutMillis Node.uint64? timeout = some s.probeTimeoutMillis)
    (hthreshold : fieldOr ({} : LivenessSection).missThreshold Node.uint32? threshold = some s.missThreshold)
    (hhandshake : fieldOr ({} : LivenessSection).handshakeTimeoutMillis Node.uint64? handshake =
      some s.handshakeTimeoutMillis)
    (habsence : fieldOr ({} : LivenessSection).absenceTimeoutSeconds Node.uint64? absence =
      some s.absenceTimeoutSeconds) :
    ofNode? n = some s := by
  simp [ofNode?, hfields, hinterval, htimeout, hthreshold, hhandshake, habsence]

theorem PairingSection.ofNode?_eq {s : PairingSection} {attempts expiry lockout : Option Node}
    (hfields : n.fields? ["max_pin_attempts", "pin_expiry_secs", "lockout_secs"] = some [attempts, expiry, lockout])
    (hattempts : fieldOr ({} : PairingSection).maxPinAttempts Node.uint32? attempts = some s.maxPinAttempts)
    (hexpiry : fieldOr ({} : PairingSection).pinExpirySeconds Node.uint64? expiry = some s.pinExpirySeconds)
    (hlockout : fieldOr ({} : PairingSection).lockoutSeconds Node.uint64? lockout = some s.lockoutSeconds) :
    ofNode? n = some s := by
  simp [ofNode?, hfields, hattempts, hexpiry, hlockout]

theorem placementOfNode?_eq {p : Placement} {id x y width height : Node}
    (hfields : n.fields? ["client_id", "x_offset", "y_offset", "width", "height"] =
      some [some id, some x, some y, some width, some height])
    (hid : id.uuid? = some p.1) (hx : x.int32? = some p.2.x) (hy : y.int32? = some p.2.y)
    (hwidth : width.uint32? = some p.2.width) (hheight : height.uint32? = some p.2.height) :
    placementOfNode? n = some p := by
  simp [placementOfNode?, hfields, hid, hx, hy, hwidth, hheight]

theorem KnownClient.ofNode?_eq {k : KnownClient} {id name : Node} {trusted : Option Node}
    (hfields : n.fields? ["client_id", "name", "trusted"] = some [some id, some name, trusted])
    (hid : id.uuid? = some k.id) (hname : name.string? = some k.name)
    (htrusted : fieldOr false Node.boolean? trusted = some k.trusted) : ofNode? n = some k := by
  simp [ofNode?, hfields, hid, hname, htrusted]

theorem Config.ofNode?_eq {m : MasterSection} {w : NetworkSection} {l : Option LayoutSection} {v : LivenessSection}
    {p : PairingSection} {known : Option (List KnownClient)}
    {master network layout liveness pairing clients : Option Node}
    (hfields : n.fields? ["master", "network", "layout", "liveness", "pairing", "clients"] =
      some [master, network, layout, liveness, pairing, clients])
    (hmaster : fieldOr {} MasterSection.ofNode? master = some m)
    (hnetwork : fieldOr {} NetworkSection.ofNode? network = some w)
    (hlayout : fieldOr {} LayoutSection.ofNode? layout = l)
    (hliveness : fieldOr {} LivenessSection.ofNode? liveness = some v)
    (hpairing : fieldOr {} PairingSection.ofNode? pairing = some p)
    (hclients : fieldOr [] (fun n => do (← n.items?).mapM KnownClient.ofNode?) clients = known) :
    ofNode? n = l.bind fun l => known.map fun known => ⟨m, w, l, v, p, known⟩ := by
  rw [ofNode?, hfields]
  dsimp only [Option.bind_eq_bind, Option.bind_some]
  rw [hmaster, hnetwork, hlayout, Option.bind_some, Option.bind_some]
  refine congrArg l.bind (funext fun l => ?_)
  rw [hliveness, hpairing, Option.bind_some, Option.bind_some, Option.map_eq_bind]
  exact congrArg (Option.bind · _) hclients

/-- A screen lacks no field. -/
theorem placementOfNode?_eq_none {fields : List (Option Node)} (hfields : n.fields? screenNames = some fields)
    (hnone : none ∈ fields) : placementOfNode? n = none := by
  rw [placementOfNode?, ← screenNames, hfields]
  dsimp only [Option.bind_eq_bind, Option.bind_some]
  split
  · simp only [List.mem_cons, List.not_mem_nil, or_false] at hnone
    rcases hnone with rfl | rfl | rfl | rfl | rfl <;> simp
  · rfl

theorem KnownClient.ofNode?_eq_none {id name trusted : Option Node}
    (hfields : n.fields? ["client_id", "name", "trusted"] = some [id, name, trusted])
    (hnone : id = none ∨ name = none) : ofNode? n = none := by
  rcases hnone with rfl | rfl <;> simp [ofNode?, hfields]

end Sections

/-! ## Reading what is left -/

theorem fieldOr_left {α : Type} {standard value : α} {read : Node → Option α} {node : Node}
    (h : read node = some value) (goes : Bool) :
    fieldOr standard read (if goes then none else some node) = some (if goes then standard else value) := by
  cases goes with
  | true => rfl
  | false => exact h

/-- What goes need not be complete. -/
theorem fieldOr_complete {α : Type} {standard value : α} {read : Node → Option α} {entry : Option Node}
    {Complete : Prop} [Decidable Complete] (h : fieldOr standard read entry = if Complete then some value else none)
    (goes : Bool) :
    fieldOr standard read (if goes then none else entry) =
      if goes = false → Complete then some (if goes then standard else value) else none := by
  cases goes with
  | true => simp [fieldOr]
  | false => simpa using h

/-- The node of a table where some of its fields go. -/
def tableLeft (gone : Spot → Bool) (part : String) (settings : List Setting) (listings : List Listing) : Node :=
  ((Part.table part settings listings).without gone).entry.2

theorem fields?_table (gone : Spot → Bool) (part : String) (settings : List Setting) (listings : List Listing)
    (names : List String) : (tableLeft gone part settings listings).fields? names =
      some (names.map fun name => if gone (.field part name) then none
        else (Part.entriesBelow gone part settings listings).lookup name) :=
  congrArg some (List.map_congr_left fun name _ => Toml.lookup_table_left gone part settings listings name)

theorem MasterSection.ofNode?_left (gone : Spot → Bool) (s : MasterSection) :
    ofNode? (tableLeft gone "master" s.fields []) = some (s.without fun name => gone (.field "master" name)) :=
  ofNode?_eq (fields?_table _ _ _ _ _) (fieldOr_left (string?_string _) _)

theorem NetworkSection.ofNode?_left (gone : Spot → Bool) (s : NetworkSection) :
    ofNode? (tableLeft gone "network" s.fields []) = some (s.without fun name => gone (.field "network" name)) :=
  ofNode?_eq (fields?_table _ _ _ _ _) (fieldOr_left (uint16?_toNat _) _) (fieldOr_left (uint16?_toNat _) _)
    (fieldOr_left (uint16?_toNat _) _) (fieldOr_left (string?_string _) _)

theorem LivenessSection.ofNode?_left (gone : Spot → Bool) (s : LivenessSection) :
    ofNode? (tableLeft gone "liveness" s.fields []) = some (s.without fun name => gone (.field "liveness" name)) :=
  ofNode?_eq (fields?_table _ _ _ _ _) (fieldOr_left (uint64?_toNat _) _) (fieldOr_left (uint64?_toNat _) _)
    (fieldOr_left (uint32?_toNat _) _) (fieldOr_left (uint64?_toNat _) _) (fieldOr_left (uint64?_toNat _) _)

theorem PairingSection.ofNode?_left (gone : Spot → Bool) (s : PairingSection) :
    ofNode? (tableLeft gone "pairing" s.fields []) = some (s.without fun name => gone (.field "pairing" name)) :=
  ofNode?_eq (fields?_table _ _ _ _ _) (fieldOr_left (uint32?_toNat _) _) (fieldOr_left (uint64?_toNat _) _)
    (fieldOr_left (uint64?_toNat _) _)

/-- An item of a list where some of its fields go. -/
def itemLeft (goes : String → Bool) (settings : List Setting) : Node :=
  .table .header (settingEntries (settings.filter fun s => !goes s.1))

theorem fields?_item (goes : String → Bool) (settings : List Setting) (names : List String) :
    (itemLeft goes settings).fields? names =
      some (names.map fun name => if goes name then none else (settingEntries settings).lookup name) :=
  congrArg some (List.map_congr_left fun name _ => Toml.lookup_settings_left goes settings name)

theorem placementOfNode?_left (goes : String → Bool) (p : Placement) :
    placementOfNode? (itemLeft goes (placementFields p)) =
      if ∀ name ∈ screenNames, goes name = false then some p else none := by
  have hfields := fields?_item goes (placementFields p) screenNames
  split
  · rename_i hstay
    have hall : (itemLeft goes (placementFields p)).fields? screenNames =
        some (screenNames.map fun name => (settingEntries (placementFields p)).lookup name) := by
      rw [hfields]
      exact congrArg some (List.map_congr_left fun name hname => by rw [hstay name hname]; rfl)
    exact placementOfNode?_eq hall (uuid?_text _) (int32?_toInt _) (int32?_toInt _) (uint32?_toNat _)
      (uint32?_toNat _)
  · rename_i hgoes
    simp only [not_forall, Bool.not_eq_false] at hgoes
    obtain ⟨name, hname, hgone⟩ := hgoes
    exact placementOfNode?_eq_none hfields (List.mem_map.2 ⟨name, hname, if_pos hgone⟩)

theorem KnownClient.ofNode?_left (goes : String → Bool) (k : KnownClient) :
    ofNode? (itemLeft goes k.fields) =
      if ∀ name ∈ clientNames, goes name = false then some (k.without goes) else none := by
  have hfields := fields?_item goes k.fields ["client_id", "name", "trusted"]
  split
  · rename_i hstay
    have hid : goes "client_id" = false := hstay _ (by decide)
    have hname : goes "name" = false := hstay _ (by decide)
    simp only [List.map_cons, List.map_nil, hid, hname] at hfields
    exact ofNode?_eq hfields (uuid?_text _) (string?_string _) (fieldOr_left (boolean?_boolean _) _)
  · rename_i hgoes
    refine ofNode?_eq_none hfields ?_
    cases hid : goes "client_id" with
    | true => exact .inl (if_pos hid)
    | false =>
      cases hname : goes "name" with
      | true => exact .inr (if_pos hname)
      | false => exact absurd (by simp [clientNames, hid, hname]) hgoes

/-- Items are read one by one, and none of them may lack a field without a standard value. -/
theorem mapM_left {α : Type} {read : Node → Option α} {fields : α → List Setting} {names : List String}
    {left : (String → Bool) → α → α}
    (h : ∀ goes a, read (itemLeft goes (fields a)) =
      if ∀ name ∈ names, goes name = false then some (left goes a) else none)
    (goes : Nat → String → Bool) (as : List α) :
    ((as.map fields).mapIdx fun i item => itemLeft (goes i) item).mapM read =
      if ∀ i < as.length, ∀ name ∈ names, goes i name = false then some (as.mapIdx fun i a => left (goes i) a)
      else none := by
  induction as generalizing goes with
  | nil => simp
  | cons a as ih =>
    rw [List.map_cons, List.mapIdx_cons, List.mapIdx_cons, List.mapM_cons, h, ih fun i => goes (i + 1)]
    simp only [List.length_cons, Nat.forall_lt_succ_left]
    by_cases hfirst : ∀ name ∈ names, goes 0 name = false
    · by_cases hrest : ∀ i < as.length, ∀ name ∈ names, goes (i + 1) name = false
      · rw [if_pos hfirst, if_pos hrest, if_pos ⟨hfirst, hrest⟩]
        rfl
      · rw [if_pos hfirst, if_neg hrest, if_neg fun hboth => hrest hboth.2]
        rfl
    · simp only [hfirst, false_and, if_false]
      rfl

/-- A list is read whether it was written as a setting or as tables. -/
theorem fieldOr_items {α : Type} {read : Node → Option α} {fields : α → List Setting} {names : List String}
    (left : (String → Bool) → α → α)
    (h : ∀ goes a, read (itemLeft goes (fields a)) =
      if ∀ name ∈ names, goes name = false then some (left goes a) else none)
    (gone : Spot → Bool) (path : List String) (as : List α) :
    fieldOr [] (fun n => do (← n.items?).mapM read)
        ((settingEntries (emptySettings (as.map fields)) ++
          ((listings (as.map fields)).map (Listing.without gone path)).map Listing.entry).lookup "clients") =
      if NoneLacks gone ⟨path, "clients"⟩ as.length names then
        some (as.mapIdx fun i a => left (fun name => gone (.item ⟨path, "clients"⟩ i name)) a)
      else none := by
  cases as with
  | nil => rw [if_pos (by simp [NoneLacks])]; rfl
  | cons a as =>
    have hitems : ∀ xs : List (List Setting), ((xs.mapIdx fun i item => item.filter fun s =>
        !gone (.item ⟨path, "clients"⟩ i s.1)).map settingEntries).map (Node.table .header) =
        xs.mapIdx fun i item => itemLeft (fun name => gone (.item ⟨path, "clients"⟩ i name)) item := by
      intro xs
      simp [List.mapIdx_eq_zipIdx_map, itemLeft]
    have hread := mapM_left h (fun i name => gone (.item ⟨path, "clients"⟩ i name)) (a :: as)
    rw [← hitems] at hread
    exact hread

theorem LayoutSection.ofNode?_left (gone : Spot → Bool) (s : LayoutSection) :
    ofNode? (tableLeft gone "layout" (s.fields ++ emptySettings (s.clients.map placementFields))
      (listings (s.clients.map placementFields))) =
      if s.Complete gone then some (s.without fun name => gone (.field "layout" name)) else none := by
  have hscreens := fieldOr_items (fun _ p => p) placementOfNode?_left gone ["layout"] s.clients
  rw [Toml.mapIdx_unchanged] at hscreens
  have hfields := fields?_table gone "layout" (s.fields ++ emptySettings (s.clients.map placementFields))
    (listings (s.clients.map placementFields)) ["master_screen_width", "master_screen_height", "clients"]
  refine (ofNode?_eq hfields (fieldOr_left (uint32?_toNat _) _) (fieldOr_left (uint32?_toNat _) _)
    (fieldOr_complete hscreens _)).trans ?_
  change (if s.Complete gone then some _ else none).map _ = _
  by_cases hcomplete : s.Complete gone
  · rw [if_pos hcomplete, if_pos hcomplete]
    rfl
  · rw [if_neg hcomplete, if_neg hcomplete]
    rfl

/-- Of settings without the parts that go, the settings with standard values for these parts are read, unless an item
that stays lacks a field without a standard value. -/
theorem Config.ofNode?_left (gone : Spot → Bool) (c : Config) :
    ofNode? (.table .header (c.outline.without gone).entries) =
      if c.Complete gone then some (c.without gone) else none := by
  have hfields : (Node.table .header (c.outline.without gone).entries).fields?
      ["master", "network", "layout", "liveness", "pairing", "clients"] =
      some [if gone (.part "master") then none else some (tableLeft gone "master" c.master.fields []),
        if gone (.part "network") then none else some (tableLeft gone "network" c.network.fields []),
        if gone (.part "layout") then none
        else some (tableLeft gone "layout" (c.layout.fields ++ emptySettings (c.layout.clients.map placementFields))
          (listings (c.layout.clients.map placementFields))),
        if gone (.part "liveness") then none else some (tableLeft gone "liveness" c.liveness.fields []),
        if gone (.part "pairing") then none else some (tableLeft gone "pairing" c.pairing.fields []),
        if gone (.part "clients") then none
        else (settingEntries (emptySettings (c.clients.map KnownClient.fields)) ++
          ((listings (c.clients.map KnownClient.fields)).map (Listing.without gone [])).map Listing.entry).lookup
            "clients"] := by
    refine (congrArg some (List.map_congr_left fun name _ =>
      Toml.lookup_outline_left gone c.outline name)).trans ?_
    obtain ⟨master, network, layout, liveness, pairing, clients⟩ := c
    cases clients <;> rfl
  have hsection : fieldOr ({} : LayoutSection) LayoutSection.ofNode? (some (tableLeft gone "layout"
      (c.layout.fields ++ emptySettings (c.layout.clients.map placementFields))
      (listings (c.layout.clients.map placementFields)))) = _ := c.layout.ofNode?_left gone
  refine (ofNode?_eq hfields (fieldOr_left (c.master.ofNode?_left gone) _)
    (fieldOr_left (c.network.ofNode?_left gone) _) (fieldOr_complete hsection _)
    (fieldOr_left (c.liveness.ofNode?_left gone) _) (fieldOr_left (c.pairing.ofNode?_left gone) _)
    (fieldOr_complete (fieldOr_items KnownClient.without KnownClient.ofNode?_left gone [] c.clients) _)).trans ?_
  change (if _ then some _ else none).bind (fun _ => Option.map _ (if gone (.part "clients") = false →
    NoneLacks gone clientList c.clients.length clientNames then some _ else none)) = _
  by_cases hlayout : gone (.part "layout") = false → c.layout.Complete gone
  · by_cases hclients : gone (.part "clients") = false → NoneLacks gone clientList c.clients.length clientNames
    · have hcomplete : c.Complete gone := ⟨hlayout, hclients⟩
      rw [if_pos hlayout, if_pos hclients, if_pos hcomplete]
      rfl
    · rw [if_neg hclients, if_neg fun h : c.Complete gone => hclients h.2]
      exact Option.bind_fun_none _
  · rw [if_neg hlayout, if_neg fun h : c.Complete gone => hlayout h.1]
    rfl

/-! ## Whole files -/

theorem Config.ofText?_cut {saved : List Char} {text : String} (hwritable : c.isWritable = true)
    (hcut : Cut gone c.outline.pieces saved text.toList) :
    ofText? text = if c.Complete gone then some (c.without gone) else none := by
  have hread : Toml.Document.read? text = some (c.outline.without gone).document :=
    Toml.read?_cut hcut (by rw [lines_outline]; exact writable_lines hwritable)
  rw [ofText?, hread]
  dsimp only [Option.bind_eq_bind, Option.bind_some]
  rw [ofDocument?, Toml.entries?_outline (Toml.wellFormed_without c.wellFormed_outline)]
  exact c.ofNode?_left gone

theorem fromUTF8?_toUTF8 (s : String) : String.fromUTF8? s.toUTF8 = some s := by
  unfold String.fromUTF8?
  rw [String.toUTF8_eq_toByteArray, dif_pos s.isValidUTF8]
  rfl

namespace ConfigFile

variable {f f' : ConfigFile}

theorem load_file (f : ConfigFile) (text : String) : load { f with state := .file text.toUTF8 } =
    match Config.ofText? text with
    | some c => .ok c
    | none => .error .malformed := by
  cases hread : Config.ofText? text <;> simp only [load, fromUTF8?_toUTF8, hread]

theorem save_of_isWritable (h : c.isWritable = true) (hfolder : f.state ≠ .folder) (hplace : f.state ≠ .blocked) :
    f.save c = .ok { f with state := .file (String.ofList (Line.render c.lines)).toUTF8 } := by
  rw [save, if_neg hplace, Config.text?, if_pos h]
  exact if_neg hfolder

theorem save_eq_ok (h : f.save c = .ok f') : c.isWritable = true ∧
    f' = { f with state := .file (String.ofList (Line.render c.lines)).toUTF8 } := by
  by_cases hplace : f.state = .blocked
  · rw [save, if_pos hplace] at h
    cases h
  by_cases hwritable : c.isWritable = true
  · by_cases hfolder : f.state = .folder
    · rw [save, if_neg hplace, Config.text?, if_pos hwritable] at h
      cases h.symm.trans (if_pos hfolder)
    · rw [save_of_isWritable hwritable hfolder hplace] at h
      exact ⟨hwritable, (Except.ok.inj h).symm⟩
  · rw [save, if_neg hplace, Config.text?, if_neg hwritable] at h
    cases h

/-- Whatever sections and fields are cut out of the text of a saved file, the file loads as the saved settings with
standard values for exactly these sections and fields. Only where a client is left without its identifier or its
name, or a screen without one of its fields, the file is refused. -/
theorem load_cut (h : f.save c = .ok f') (gone : Spot → Bool) :
    ∃ saved, f'.text? = some saved ∧ (∃ rest : String, Cut gone c.outline.pieces saved.toList rest.toList) ∧
      ∀ rest : String, Cut gone c.outline.pieces saved.toList rest.toList →
        load { f' with state := .file rest.toUTF8 } =
          if c.Complete gone then .ok (c.without gone) else .error .malformed := by
  obtain ⟨hwritable, rfl⟩ := save_eq_ok h
  refine ⟨String.ofList (Line.render c.lines), fromUTF8?_toUTF8 _, ?_, fun rest hcut => ?_⟩
  · have hlines : Toml.TextOf (c.outline.pieces.map Toml.Piece.line) (Line.render c.lines) := by
      rw [Toml.map_line_pieces, Config.lines_outline]
      exact Toml.textOf_render c.lines
    obtain ⟨rest, hcut⟩ := Toml.exists_cut gone hlines
    exact ⟨String.ofList rest, by rwa [String.toList_ofList, String.toList_ofList]⟩
  · rw [load_file, Config.ofText?_cut hwritable hcut]
    by_cases hcomplete : c.Complete gone
    · rw [if_pos hcomplete, if_pos hcomplete]
    · rw [if_neg hcomplete, if_neg hcomplete]

end ConfigFile

/-- Settings with two trusted clients, one of which has a screen, and a port that is not the standard one. -/
def guestSettings : Config :=
  { network := { controlPort := 5000 }
    layout := ⟨800, 600, [(.ofNat 1, ⟨800, 0, 640, 480⟩)]⟩
    clients := [⟨.ofNat 1, "left", true⟩, ⟨.ofNat 2, "right", true⟩] }

/-- The section about screens, the port, and the trust in the second client. -/
def guestSpots : List Spot := [.part "layout", .field "network" "control_port", .item clientList 1 "trusted"]

/-- Without these spots the other settings are loaded, and without the name of the first client none. -/
theorem guestSettings_cut :
    ∃ f' saved, (⟨"desk", "desk/config.toml", .absent⟩ : ConfigFile).save guestSettings = .ok f' ∧
      f'.text? = some saved ∧
      (∃ rest : String, Cut (· ∈ guestSpots) guestSettings.outline.pieces saved.toList rest.toList ∧
        ConfigFile.load { f' with state := .file rest.toUTF8 } =
          .ok { clients := [⟨.ofNat 1, "left", true⟩, ⟨.ofNat 2, "right", false⟩] }) ∧
      ∃ rest : String, Cut (· == .item clientList 0 "name") guestSettings.outline.pieces saved.toList rest.toList ∧
        ConfigFile.load { f' with state := .file rest.toUTF8 } = .error .malformed := by
  have hsave : (⟨"desk", "desk/config.toml", .absent⟩ : ConfigFile).save guestSettings = .ok _ :=
    ConfigFile.save_of_isWritable rfl nofun nofun
  obtain ⟨saved, hsaved, ⟨rest, hcut⟩, hload⟩ := ConfigFile.load_cut hsave (· ∈ guestSpots)
  obtain ⟨saved', hsaved', ⟨rest', hcut'⟩, hload'⟩ := ConfigFile.load_cut hsave (· == .item clientList 0 "name")
  obtain rfl : saved = saved' := Option.some.inj (hsaved.symm.trans hsaved')
  have hcomplete : guestSettings.Complete (· ∈ guestSpots) := by decide
  have hlacking : ¬guestSettings.Complete (· == .item clientList 0 "name") := by decide
  exact ⟨_, saved, hsave, hsaved, ⟨rest, hcut, (hload rest hcut).trans (if_pos hcomplete)⟩, rest', hcut',
    (hload' rest' hcut').trans (if_neg hlacking)⟩

end SharedDesk
