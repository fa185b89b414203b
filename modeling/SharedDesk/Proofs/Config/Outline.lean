import SharedDesk.Config.Writer
import SharedDesk.Proofs.Toml.Outline
/-!
# The outline of settings

The lines of settings are those of an outline in which no name is given twice (`lines_outline`,
`wellFormed_outline`), and every line can be written when the numbers of 64 bits are small enough
(`writable_lines`).
-/

namespace SharedDesk

open Toml (FitsIn64 IsBareName Line Listing Outline Part Setting settingLines)

/-! ## The outline of settings -/

/-- The section by its fields. -/
def MasterSection.fields (s : MasterSection) : List Setting := [("log_level", .string s.logLevel)]

/-- The section by its fields. -/
def NetworkSection.fields (s : NetworkSection) : List Setting :=
  [("control_port", .integer s.controlPort.toNat), ("input_port", .integer s.inputPort.toNat),
    ("discovery_port", .integer s.discoveryPort.toNat), ("bind_address", .string s.bindAddress)]

/-- A screen by its fields. -/
def placementFields (p : Placement) : List Setting :=
  [("client_id", .string p.1.text), ("x_offset", .integer p.2.x.toInt), ("y_offset", .integer p.2.y.toInt),
    ("width", .integer p.2.width.toNat), ("height", .integer p.2.height.toNat)]

/-- The section by its fields, without its screens. -/
def LayoutSection.fields (s : LayoutSection) : List Setting :=
  [("master_screen_width", .integer s.masterWidth.toNat), ("master_screen_height", .integer s.masterHeight.toNat)]

/-- The section by its fields. -/
def LivenessSection.fields (s : LivenessSection) : List Setting :=
  [("probe_interval_ms", .integer s.probeIntervalMillis.toNat),
    ("probe_timeout_ms", .integer s.probeTimeoutMillis.toNat), ("miss_threshold", .integer s.missThreshold.toNat),
    ("handshake_timeout_ms", .integer s.handshakeTimeoutMillis.toNat),
    ("absence_timeout_secs", .integer s.absenceTimeoutSeconds.toNat)]

/-- The section by its fields. -/
def PairingSection.fields (s : PairingSection) : List Setting :=
  [("max_pin_attempts", .integer s.maxPinAttempts.toNat), ("pin_expiry_secs", .integer s.pinExpirySeconds.toNat),
    ("lockout_secs", .integer s.lockoutSeconds.toNat)]

/-- A client by its fields. -/
def KnownClient.fields (k : KnownClient) : List Setting :=
  [("client_id", .string k.id.text), ("name", .string k.name), ("trusted", .boolean k.trusted)]

/-- The setting that stands for a list without items. -/
def emptySettings (items : List (List Setting)) : List Setting :=
  if items.isEmpty then [("clients", .emptyList)] else []

/-- A list of tables, if it has any items. -/
def listings (items : List (List Setting)) : List Listing := if items.isEmpty then [] else [⟨"clients", items⟩]

/-- How settings are laid out. -/
def Config.outline (c : Config) : Outline :=
  let screens := c.layout.clients.map placementFields
  let clients := c.clients.map KnownClient.fields
  { top := emptySettings clients
    parts :=
      [.table "master" c.master.fields [], .table "network" c.network.fields [],
        .table "layout" (c.layout.fields ++ emptySettings screens) (listings screens),
        .table "liveness" c.liveness.fields [], .table "pairing" c.pairing.fields []] ++
      (listings clients).map .listing }

variable {c : Config} {items : List (List Setting)}

theorem lines_listings (items : List (List Setting)) (path : List String) :
    (listings items).flatMap (Listing.lines path) =
      items.flatMap fun item => .element ⟨path, "clients"⟩ :: settingLines item := by
  cases items with
  | nil => rfl
  | cons item items => simp [listings, Listing.lines]

theorem MasterSection.lines_eq (s : MasterSection) : s.lines = (Part.table "master" s.fields []).lines := rfl

theorem NetworkSection.lines_eq (s : NetworkSection) : s.lines = (Part.table "network" s.fields []).lines := rfl

theorem LivenessSection.lines_eq (s : LivenessSection) : s.lines = (Part.table "liveness" s.fields []).lines := rfl

theorem PairingSection.lines_eq (s : PairingSection) : s.lines = (Part.table "pairing" s.fields []).lines := rfl

theorem LayoutSection.lines_eq (s : LayoutSection) : s.lines =
    (Part.table "layout" (s.fields ++ emptySettings (s.clients.map placementFields))
      (listings (s.clients.map placementFields))).lines := by
  rw [Part.lines, lines_listings, LayoutSection.lines]
  cases s.clients with
  | nil => rfl
  | cons p rest =>
    simp [emptySettings, settingLines, LayoutSection.fields, sectionLine, numberLine, List.flatMap_map]
    rfl

theorem Config.lines_outline (c : Config) : c.outline.lines = c.lines := by
  have htop : settingLines (emptySettings (c.clients.map KnownClient.fields)) =
      if c.clients.isEmpty then [.setting "clients" .emptyList] else [] := by
    cases c.clients <;> rfl
  have hclients : ((listings (c.clients.map KnownClient.fields)).map Part.listing).flatMap Part.lines =
      c.clients.flatMap KnownClient.lines := by
    have hlines : (listings (c.clients.map KnownClient.fields)).flatMap (Listing.lines []) =
        c.clients.flatMap KnownClient.lines := by
      rw [lines_listings, List.flatMap_map]
      rfl
    rw [← hlines, List.flatMap_map]
    rfl
  rw [lines, c.master.lines_eq, c.network.lines_eq, c.layout.lines_eq, c.liveness.lines_eq, c.pairing.lines_eq,
    ← htop, ← hclients, Outline.lines, outline]
  simp

/-! ## Settings are laid out without fault -/

theorem distinct_emptySettings (items : List (List Setting)) :
    ((emptySettings items).map Prod.fst ++ (listings items).map Listing.name) = ["clients"] := by
  cases items <;> rfl

theorem wellFormed_listings (h : ∀ item ∈ items, (item.map Prod.fst).Nodup) :
    ∀ l ∈ listings items, l.WellFormed := by
  intro l hl
  unfold listings at hl
  split at hl
  · cases hl
  · rename_i hitems
    obtain rfl := List.mem_singleton.1 hl
    exact ⟨fun heq => hitems (List.isEmpty_iff.2 heq), h⟩

theorem nodup_placementFields (p : Placement) : ((placementFields p).map Prod.fst).Nodup := by
  have hnames : (placementFields p).map Prod.fst = ["client_id", "x_offset", "y_offset", "width", "height"] := rfl
  rw [hnames]
  decide

theorem KnownClient.nodup_fields (k : KnownClient) : (k.fields.map Prod.fst).Nodup := by
  have hnames : k.fields.map Prod.fst = ["client_id", "name", "trusted"] := rfl
  rw [hnames]
  decide

theorem Config.wellFormed_outline (c : Config) : c.outline.WellFormed := by
  constructor
  · have hnames : c.outline.top.map Prod.fst ++ c.outline.parts.map Part.name =
        if c.clients.isEmpty then ["clients", "master", "network", "layout", "liveness", "pairing"]
        else ["master", "network", "layout", "liveness", "pairing", "clients"] := by
      rw [outline]
      cases c.clients <;> rfl
    rw [hnames]
    split <;> decide
  · have hscreens : ∀ l ∈ listings (c.layout.clients.map placementFields), l.WellFormed := by
      refine wellFormed_listings fun item hitem => ?_
      obtain ⟨p, -, rfl⟩ := List.mem_map.1 hitem
      exact nodup_placementFields p
    have hclients : ∀ l ∈ listings (c.clients.map KnownClient.fields), l.WellFormed := by
      refine wellFormed_listings fun item hitem => ?_
      obtain ⟨k, -, rfl⟩ := List.mem_map.1 hitem
      exact k.nodup_fields
    intro part hpart
    simp only [outline, List.cons_append, List.nil_append, List.mem_cons, List.mem_map] at hpart
    obtain rfl | rfl | rfl | rfl | rfl | ⟨l, hl, rfl⟩ := hpart
    · exact ⟨by simp [MasterSection.fields], nofun⟩
    · exact ⟨by simp [NetworkSection.fields], nofun⟩
    · refine ⟨?_, hscreens⟩
      rw [List.map_append, List.append_assoc, distinct_emptySettings]
      simp [LayoutSection.fields]
    · exact ⟨by simp [LivenessSection.fields], nofun⟩
    · exact ⟨by simp [PairingSection.fields], nofun⟩
    · exact hclients l hl

/-! ## Settings can be written -/

section Writable

variable {name : String}

theorem fitsIn64_of_lt {n : Nat} (h : n < UInt32.size) : FitsIn64 n := by
  have hsize : (UInt32.size : Int) ≤ Int64.maxValue.toInt := by decide
  exact ⟨Int.le_trans (by decide) (Int.natCast_nonneg n), by omega⟩

theorem fitsIn64_int32 (n : Int32) : FitsIn64 n.toInt :=
  ⟨Int.le_trans (by decide) n.minValue_le_toInt, Int.le_trans n.toInt_le (by decide)⟩

theorem fitsIn64_iff {n : Nat} : FitsIn64 n ↔ n ≤ Config.largestNumber := by
  have hsize : Int64.maxValue.toInt = Config.largestNumber := by decide
  have hleast : Int64.minValue.toInt ≤ (n : Int) := Int.le_trans (by decide) (Int.natCast_nonneg n)
  rw [FitsIn64, hsize]
  exact ⟨fun h => Int.ofNat_le.1 h.2, fun h => ⟨hleast, Int.ofNat_le.2 h⟩⟩

theorem writable_sectionLine (h : IsBareName name) : (sectionLine name).Writable :=
  ⟨Nat.zero_lt_succ _, nofun, h⟩

theorem writable_textLine (h : IsBareName name) (text : String) : (textLine name text).Writable := ⟨h, trivial⟩

theorem writable_numberLine (h : IsBareName name) {n : Int} (hn : FitsIn64 n) : (numberLine name n).Writable := ⟨h, hn⟩

theorem MasterSection.writable_lines (s : MasterSection) : ∀ line ∈ s.lines, line.Writable := by
  simp only [lines, List.forall_mem_cons]
  exact ⟨writable_sectionLine (by decide), writable_textLine (by decide) _, nofun⟩

theorem NetworkSection.writable_lines (s : NetworkSection) : ∀ line ∈ s.lines, line.Writable := by
  have hport : ∀ port : UInt16, FitsIn64 port.toNat := fun port =>
    fitsIn64_of_lt (Nat.lt_trans port.toNat_lt_size (by decide))
  simp only [lines, List.forall_mem_cons]
  exact ⟨writable_sectionLine (by decide), writable_numberLine (by decide) (hport _),
    writable_numberLine (by decide) (hport _), writable_numberLine (by decide) (hport _),
    writable_textLine (by decide) _, nofun⟩

theorem writable_placementLines (p : Placement) : ∀ line ∈ placementLines p, line.Writable := by
  have hsize : ∀ n : UInt32, FitsIn64 n.toNat := fun n => fitsIn64_of_lt n.toNat_lt_size
  have hheader : (Line.element ⟨["layout"], "clients"⟩).Writable := ⟨by decide, by decide, by decide⟩
  simp only [placementLines, List.forall_mem_cons]
  exact ⟨hheader, writable_textLine (by decide) _, writable_numberLine (by decide) (fitsIn64_int32 _),
    writable_numberLine (by decide) (fitsIn64_int32 _), writable_numberLine (by decide) (hsize _),
    writable_numberLine (by decide) (hsize _), nofun⟩

theorem writable_emptyList : (Line.setting "clients" .emptyList).Writable := ⟨by decide, trivial⟩

theorem LayoutSection.writable_lines (s : LayoutSection) : ∀ line ∈ s.lines, line.Writable := by
  have hsize : ∀ n : UInt32, FitsIn64 n.toNat := fun n => fitsIn64_of_lt n.toNat_lt_size
  have hscreens : ∀ line ∈ if s.clients.isEmpty then [.setting "clients" .emptyList]
      else s.clients.flatMap placementLines, line.Writable := by
    split
    · exact fun line hline => List.mem_singleton.1 hline ▸ writable_emptyList
    · intro line hline
      obtain ⟨p, -, hp⟩ := List.mem_flatMap.1 hline
      exact writable_placementLines p line hp
  simp only [lines, List.forall_mem_append, List.forall_mem_cons]
  exact ⟨⟨writable_sectionLine (by decide), writable_numberLine (by decide) (hsize _),
    writable_numberLine (by decide) (hsize _), nofun⟩, hscreens⟩

theorem KnownClient.writable_lines (k : KnownClient) : ∀ line ∈ k.lines, line.Writable := by
  have hheader : (Line.element ⟨[], "clients"⟩).Writable := ⟨by decide, nofun, by decide⟩
  have htrusted : (Line.setting "trusted" (.boolean k.trusted)).Writable := ⟨by decide, trivial⟩
  simp only [lines, List.forall_mem_cons]
  exact ⟨hheader, writable_textLine (by decide) _, writable_textLine (by decide) _, htrusted, nofun⟩

/-- The numbers of 64 bits. -/
def Config.wideNumbers (c : Config) : List UInt64 :=
  [c.liveness.probeIntervalMillis, c.liveness.probeTimeoutMillis, c.liveness.handshakeTimeoutMillis,
    c.liveness.absenceTimeoutSeconds, c.pairing.pinExpirySeconds, c.pairing.lockoutSeconds]

theorem Config.isWritable_iff : c.isWritable = true ↔ ∀ n ∈ c.wideNumbers, n.toNat ≤ largestNumber := by
  simp [isWritable, wideNumbers, and_assoc]

theorem LivenessSection.writable_lines (h : ∀ n ∈ c.wideNumbers, FitsIn64 n.toNat) :
    ∀ line ∈ c.liveness.lines, line.Writable := by
  have hthreshold : FitsIn64 c.liveness.missThreshold.toNat := fitsIn64_of_lt c.liveness.missThreshold.toNat_lt_size
  simp only [Config.wideNumbers, List.forall_mem_cons] at h
  obtain ⟨hinterval, htimeout, hhandshake, habsence, -⟩ := h
  simp only [lines, List.forall_mem_cons]
  exact ⟨writable_sectionLine (by decide), writable_numberLine (by decide) hinterval,
    writable_numberLine (by decide) htimeout, writable_numberLine (by decide) hthreshold,
    writable_numberLine (by decide) hhandshake, writable_numberLine (by decide) habsence, nofun⟩

theorem PairingSection.writable_lines (h : ∀ n ∈ c.wideNumbers, FitsIn64 n.toNat) :
    ∀ line ∈ c.pairing.lines, line.Writable := by
  have hattempts : FitsIn64 c.pairing.maxPinAttempts.toNat := fitsIn64_of_lt c.pairing.maxPinAttempts.toNat_lt_size
  simp only [Config.wideNumbers, List.forall_mem_cons] at h
  obtain ⟨-, -, -, -, hexpiry, hlockout, -⟩ := h
  simp only [lines, List.forall_mem_cons]
  exact ⟨writable_sectionLine (by decide), writable_numberLine (by decide) hattempts,
    writable_numberLine (by decide) hexpiry, writable_numberLine (by decide) hlockout, nofun⟩

theorem Config.writable_lines (h : c.isWritable = true) : ∀ line ∈ c.lines, line.Writable := by
  have hwide : ∀ n ∈ c.wideNumbers, FitsIn64 n.toNat := fun n hn => fitsIn64_iff.2 (isWritable_iff.1 h n hn)
  have hempty : ∀ line ∈ if c.clients.isEmpty then [Line.setting "clients" .emptyList] else [], line.Writable := by
    split
    · exact fun line hline => List.mem_singleton.1 hline ▸ writable_emptyList
    · nofun
  have hclients : ∀ line ∈ c.clients.flatMap KnownClient.lines, line.Writable := by
    intro line hline
    obtain ⟨k, -, hk⟩ := List.mem_flatMap.1 hline
    exact k.writable_lines line hk
  simp only [lines, List.forall_mem_append]
  exact ⟨⟨⟨⟨⟨⟨hempty, c.master.writable_lines⟩, c.network.writable_lines⟩, c.layout.writable_lines⟩,
    LivenessSection.writable_lines hwide⟩, PairingSection.writable_lines hwide⟩, hclients⟩

end Writable

end SharedDesk
