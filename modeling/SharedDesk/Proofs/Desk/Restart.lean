import SharedDesk.Proofs.Desk.References
import SharedDesk.Proofs.Layout.Editing
import SharedDesk.Proofs.Network
/-!
# Starting again from what was saved

Between two acts the settings in memory describe the staged network settings and the master screen
(`Recorded`), so the desk can always be started from them. Saved with them are the clients worth keeping, and
a desk that starts from those knows exactly them (`clients_knownClients`), trusts the same ones, and has the
same screens if they are still without fault. Saving that desk changes nothing (`restart_faithful`).
-/

namespace SharedDesk

/-- What was just saved is saved again without a change. -/
theorem ConfigFile.save_save {f f' : ConfigFile} {c : Config} (h : f.save c = .ok f') :
    f'.save c = .ok f' := by
  unfold save at h
  split at h
  · cases h
  · split at h
    · cases h
    · rename_i text htext
      split at h
      · cases h
      · cases h
        rw [save, if_neg nofun, htext]
        dsimp only
        rw [if_neg nofun]

/-- Settings are saved at a place, and what stands there then. -/
inductive SavedAt (c : Config) : Option ConfigFile → Option ConfigFile → Prop
  | nowhere : SavedAt c none none
  | file {f f' : ConfigFile} : f.save c = .ok f' → SavedAt c (some f) (some f')

theorem SavedAt.again {c : Config} {place place' : Option ConfigFile} (h : SavedAt c place place') :
    SavedAt c place' place' := by
  cases h with
  | nowhere => exact .nowhere
  | file hsave => exact .file (ConfigFile.save_save hsave)

namespace Table

variable {κ α : Type} [Ranked κ]

/-- Tables with nothing but keys are told by the keys they contain. -/
theorem ext_contains {t u : Table κ Unit} (h : ∀ k, t.contains k = true ↔ u.contains k = true) : t = u := by
  refine ext_find? fun k => ?_
  have hk := h k
  unfold contains at hk
  cases ht : t.find? k <;> cases hu : u.find? k <;> simp_all

end Table

namespace Desk

variable {d d' saved : Desk} {a : Act} {past : List Act} {config : Config} {file : Option ConfigFile}
  {capacity : Nat} {opening now : Time} {id : Uuid}

/-! ## The settings in memory -/

/-- The settings in memory describe the staged network settings and the master screen. -/
structure Recorded (d : Desk) : Prop where
  network : d.config.network.settings = .ok d.network.staged
  master : d.layout.master = ⟨0, 0, d.config.layout.masterWidth, d.config.layout.masterHeight⟩

theorem recorded_start (h : start config file capacity opening = .ok d) : d.Recorded := by
  unfold start at h
  split at h
  · cases h
  · rename_i settings hsettings
    cases h
    refine ⟨hsettings, ?_⟩
    dsimp only [storedLayout]
    split
    · rename_i layout hreplace
      rw [((Layout.replace_eq_ok_iff ..).1 hreplace).2]
      rfl
    · rfl

theorem configure_eq_ok_iff {change : Config → Config} : d.configure change = (.ok (), saved) ↔
    ∃ file, SavedAt (change d.config) d.file file ∧ saved = { d with config := change d.config, file } := by
  unfold configure
  cases d.file with
  | none =>
    constructor
    · rintro ⟨⟩
      exact ⟨none, .nowhere, rfl⟩
    · rintro ⟨file, ⟨⟩, rfl⟩
      rfl
  | some f =>
    dsimp only
    constructor
    · intro h
      split at h
      · rename_i f' hsave
        cases h
        exact ⟨some f', .file hsave, rfl⟩
      · cases h
    · rintro ⟨_, hat, rfl⟩
      cases hat with
      | file hsave => rw [hsave]

/-- The settings that saving leaves behind. -/
def settingsToSave (d : Desk) : Config :=
  { d.config with
    clients := d.worthKeeping
    layout := { d.config.layout with clients := d.layout.placements } }

theorem persist_eq (d : Desk) : ∃ file, d.persist.2 = { d with config := d.settingsToSave, file } :=
  d.configure_eq _

theorem recorded_persist (h : d.Recorded) : d.persist.2.Recorded := by
  obtain ⟨file, heq⟩ := d.persist_eq
  rw [heq]
  exact ⟨h.network, h.master⟩

theorem master_sweepAll (r : Registry) (l : Layout) (timeouts : SweepTimeouts) (now : Time)
    (retain : Uuid → Bool) : (sweepAll r l timeouts now retain).2.2.master = l.master := by
  unfold sweepAll
  dsimp only
  split <;> rfl

theorem recorded_act (h : d.Recorded) (a : Act) : (d.act a).Recorded := by
  cases a with
  | forget text =>
    rw [act]
    cases hread : readClientId text with
    | error bad =>
      rw [forgetClient_of_error hread]
      exact h
    | ok id =>
      rcases forgetClient_writes hread d with ⟨-, hw⟩ | hw <;> rw [hw]
      · exact ⟨h.network, h.master⟩
      · exact recorded_persist ⟨h.network, h.master⟩
  | arrange forms =>
    rw [act]
    rcases d.updateLayout_writes forms with hw | ⟨candidate, layout, -, hreplace, hw⟩ <;> rw [hw]
    · exact h
    · obtain ⟨-, rfl⟩ := (Layout.replace_eq_ok_iff ..).1 hreplace
      exact recorded_persist ⟨h.network, h.master⟩
  | stage form =>
    rw [act]
    rcases d.updateNetwork_writes form with hw | ⟨settings, network, -, hstage, hw⟩ <;> rw [hw]
    · exact h
    · obtain ⟨hvalid, rfl⟩ := (StagedNetwork.stage_eq_ok_iff ..).1 hstage
      obtain ⟨file, heq⟩ := configure_eq { d with network := { d.network with staged := settings } }
        fun c => { c with network := .ofSettings settings }
      rw [heq]
      exact ⟨NetworkSection.settings_ofSettings hvalid, h.master⟩
  | sweep timeouts retain now => exact ⟨h.network, (master_sweepAll ..).trans h.master⟩
  | maintain now => exact ⟨h.network, (master_sweepAll ..).trans h.master⟩
  | reply id number now =>
    rw [act, reply]
    split
    · exact ⟨h.network, h.master⟩
    · exact h
  | _ => exact ⟨h.network, h.master⟩

theorem recorded_after (h : d.Recorded) (past : List Act) : (d.after past).Recorded := by
  induction past with
  | nil => exact h
  | cons a past ih => exact recorded_act ih a

/-! ## What is saved -/

/-- A client is worth keeping. -/
def keeps (d : Desk) (id : Uuid) : Bool := d.admission.isTrusted id || d.layout.screens.contains id

theorem worthKeeping_eq (d : Desk) : d.worthKeeping = (d.registry.clients.filter fun id _ => d.keeps id).rows.map
    fun row => ⟨row.1, row.2.name, d.admission.isTrusted row.1⟩ := rfl

theorem mem_worthKeeping_iff {k : KnownClient} : k ∈ d.worthKeeping ↔
    d.keeps k.id = true ∧ ∃ c, d.registry.find? k.id = some c ∧ c.name = k.name ∧
      d.admission.isTrusted k.id = k.trusted := by
  rw [worthKeeping_eq]
  simp only [List.mem_map, Table.mem_rows_filter, Registry.find?, Table.find?_eq_some_iff]
  constructor
  · rintro ⟨⟨id, c⟩, ⟨hrow, hkeeps⟩, rfl⟩
    exact ⟨hkeeps, c, hrow, rfl, rfl⟩
  · rintro ⟨hkeeps, c, hrow, hname, htrusted⟩
    exact ⟨(k.id, c), ⟨hrow, hkeeps⟩, by rw [hname, htrusted]⟩

/-! ## Starting again -/

/-- Of the clients in the settings the first one of an identifier counts. -/
theorem find?_knownClients (clients : List KnownClient) (now : Time) (id : Uuid) :
    (knownClients clients now).find? id =
      (clients.find? fun k => k.id = id).map fun k => .new k.name .disconnected now := by
  have hall : ∀ (clients : List KnownClient) (r : Registry),
      (clients.foldl (fun r c => (r.register? c.id c.name now).getD r) r).find? id =
        (r.find? id).or ((clients.find? fun k => k.id = id).map fun k => .new k.name .disconnected now) := by
    intro clients
    induction clients with
    | nil => exact fun r => (Option.or_none).symm
    | cons k rest ih =>
      intro r
      rw [List.foldl_cons, ih, Registry.register?]
      by_cases hk : k.id = id
      · subst hk
        cases hc : r.find? k.id with
        | some c =>
          have hknown : r.contains k.id = true := Registry.contains_iff.2 ⟨c, hc⟩
          simp [hknown, hc]
        | none =>
          have hnew : r.contains k.id = false := by
            rw [Registry.contains, Table.contains, show r.clients.find? k.id = none from hc]
            rfl
          simp [hnew, Registry.find?_store]
      · have hother : (((if r.contains k.id = true then none
            else some (r.store k.id (.new k.name .disconnected now))).getD r).find? id) = r.find? id := by
          split
          · rfl
          · rw [Option.getD_some, Registry.find?_store, if_neg (Ne.symm hk)]
        rw [hother, List.find?_cons_of_neg (by simpa using hk)]
  exact hall clients .empty

/-- A desk that starts from the clients worth keeping knows exactly those. -/
theorem clients_knownClients (d : Desk) (now : Time) : (knownClients d.worthKeeping now).clients =
    (d.registry.clients.filter fun id _ => d.keeps id).map fun _ c => .new c.name .disconnected now := by
  refine Table.ext_find? fun id => Option.ext fun c' => ?_
  rw [show (knownClients d.worthKeeping now).clients.find? id = _ from find?_knownClients ..,
    Table.find?_map, Table.find?_filter]
  simp only [Option.map_eq_some_iff, Option.filter_eq_some_iff]
  constructor
  · rintro ⟨k, hk, rfl⟩
    obtain ⟨hkeeps, c, hc, hname, -⟩ := mem_worthKeeping_iff.1 (List.mem_of_find?_eq_some hk)
    obtain rfl : k.id = id := by simpa using List.find?_some hk
    exact ⟨c, ⟨hc, hkeeps⟩, by rw [hname]⟩
  · rintro ⟨c, ⟨hc, hkeeps⟩, rfl⟩
    have hmem : (⟨id, c.name, d.admission.isTrusted id⟩ : KnownClient) ∈ d.worthKeeping :=
      mem_worthKeeping_iff.2 ⟨hkeeps, c, hc, rfl, rfl⟩
    cases hk : d.worthKeeping.find? fun k => k.id = id with
    | none => exact absurd (decide_eq_true rfl) (List.find?_eq_none.1 hk _ hmem)
    | some k =>
      refine ⟨k, rfl, ?_⟩
      obtain ⟨-, c₀, hc₀, hname, -⟩ := mem_worthKeeping_iff.1 (List.mem_of_find?_eq_some hk)
      obtain rfl : k.id = id := by simpa using List.find?_some hk
      rw [← hname, Option.some.inj (hc₀.symm.trans hc)]

theorem start_parts (h : start config file capacity opening = .ok d) :
    d.registry = knownClients config.clients opening ∧
      d.layout = storedLayout config.layout d.registry.contains ∧ d.config = config ∧ d.file = file := by
  unfold start at h
  split at h <;> cases h
  exact ⟨rfl, rfl, rfl, rfl⟩

theorem exists_restart (h : d.Recorded) (file : Option ConfigFile) (capacity : Nat) (now : Time) :
    ∃ d', start d.settingsToSave file capacity now = .ok d' := by
  rw [start, show d.settingsToSave.network.settings = _ from h.network]
  exact ⟨_, rfl⟩

section Restarted

variable (hstart : start d.settingsToSave file capacity now = .ok d')
include hstart

theorem clients_restarted : d'.registry.clients =
    (d.registry.clients.filter fun id _ => d.keeps id).map fun _ c => .new c.name .disconnected now := by
  rw [(start_parts hstart).1]
  exact clients_knownClients d now

theorem find?_restarted (id : Uuid) : d'.registry.find? id =
    ((d.registry.find? id).filter fun _ => d.keeps id).map fun c => .new c.name .disconnected now := by
  rw [Registry.find?, clients_restarted hstart, Table.find?_map, Table.find?_filter]
  rfl

theorem contains_restarted (href : d.Referenced) (id : Uuid) :
    d'.registry.contains id = true ↔ d.keeps id = true := by
  rw [Registry.contains_iff, find?_restarted hstart]
  simp only [Option.map_eq_some_iff, Option.filter_eq_some_iff]
  constructor
  · rintro ⟨_, c, ⟨-, hkeeps⟩, -⟩
    exact hkeeps
  · intro hkeeps
    -- Trust and screens are those of clients that are known.
    have hknown : d.registry.contains id = true :=
      (Bool.or_eq_true_iff.1 hkeeps).elim (href.trusted id) (href.screens id)
    obtain ⟨c, hc⟩ := Registry.contains_iff.1 hknown
    exact ⟨_, c, ⟨hc, hkeeps⟩, rfl⟩

theorem isTrusted_restarted (href : d.Referenced) (id : Uuid) :
    d'.admission.isTrusted id = true ↔ d.admission.isTrusted id = true := by
  obtain ⟨-, -, -, htrust⟩ := start_admission hstart
  rw [htrust]
  constructor
  · rintro ⟨k, hk, htrusted, rfl⟩
    obtain ⟨-, -, -, -, hsame⟩ := mem_worthKeeping_iff.1 hk
    rw [hsame, htrusted]
  · intro htrusted
    obtain ⟨c, hc⟩ := Registry.contains_iff.1 (href.trusted id htrusted)
    have hkeeps : d.keeps id = true := by rw [keeps, htrusted, Bool.true_or]
    exact ⟨⟨id, c.name, true⟩, mem_worthKeeping_iff.2 ⟨hkeeps, c, hc, rfl, htrusted⟩, rfl, rfl⟩

theorem trusted_restarted (href : d.Referenced) : d'.admission.trusted = d.admission.trusted :=
  Table.ext_contains (isTrusted_restarted hstart href)

theorem master_restarted (hrec : d.Recorded) : d'.layout.master = d.layout.master := by
  rw [(recorded_start hstart).master, (start_parts hstart).2.2.1, hrec.master]
  rfl

theorem layout_restarted (hrec : d.Recorded) (href : d.Referenced)
    (hvalid : d.layout.validate d.registry.contains d.layout.placements = .ok ()) :
    d'.layout = d.layout := by
  have hknown : ∀ p ∈ d.layout.placements, d'.registry.contains p.1 = true := by
    intro p hp
    have hscreen : d.layout.screens.contains p.1 = true := Table.contains_iff.2 ⟨p.2, hp⟩
    exact (contains_restarted hstart href p.1).2 (by rw [keeps, hscreen, Bool.or_true])
  have hfaultless : Layout.Faultless d.layout.master d'.registry.contains d.layout.placements :=
    { (Layout.validate_eq_ok_iff ..).1 hvalid with known := hknown }
  have hreplace : (Layout.ofMaster d.config.layout.masterWidth d.config.layout.masterHeight).replace
      d'.registry.contains d.layout.placements = .ok d.layout := by
    have hbare : (Layout.ofMaster d.config.layout.masterWidth d.config.layout.masterHeight).master =
        d.layout.master := hrec.master.symm
    rw [Layout.replace_eq_ok_iff, hbare]
    refine ⟨hfaultless, ?_⟩
    rw [Layout.placements, Table.ofList_rows]
  have hall : d.layout.placements.filter (fun p => d'.registry.contains p.1) = d.layout.placements :=
    List.filter_eq_self.2 hknown
  rw [(start_parts hstart).2.1, storedLayout]
  simp only [settingsToSave, hall, hreplace]

theorem worthKeeping_restarted (href : d.Referenced) (hlayout : d'.layout = d.layout) :
    d'.worthKeeping = d.worthKeeping := by
  have htrusted : ∀ id, d'.admission.isTrusted id = d.admission.isTrusted id := fun id => by
    rw [Admission.isTrusted, trusted_restarted hstart href, Admission.isTrusted]
  have hkeeps : ∀ id, d'.keeps id = d.keeps id := fun id => by rw [keeps, htrusted, hlayout, keeps]
  rw [worthKeeping_eq, worthKeeping_eq, clients_restarted hstart]
  simp only [Table.map, Table.filter, List.filter_map, List.map_map, Function.comp_def, List.filter_filter,
    hkeeps, htrusted, Bool.and_self, Client.new]

/-- What a desk that started again would save is what it started from. -/
theorem settingsToSave_restarted (href : d.Referenced) (hlayout : d'.layout = d.layout) :
    d'.settingsToSave = d.settingsToSave := by
  rw [settingsToSave, worthKeeping_restarted hstart href hlayout, hlayout, (start_parts hstart).2.2.1]
  rfl

end Restarted

/-- Saving once more at the place where the same settings were just saved changes nothing. -/
theorem persist_again (hsaved : d.persist = (.ok (), saved)) (hfile : d'.file = saved.file)
    (hconfig : d'.config = d.settingsToSave) (hsame : d'.settingsToSave = d.settingsToSave) :
    d'.persist = (.ok (), d') := by
  obtain ⟨file, hsavedAt, rfl⟩ := configure_eq_ok_iff.1 hsaved
  have hplace : d'.file = file := hfile
  have hchange : d'.settingsToSave = d'.config := hsame.trans hconfig.symm
  refine configure_eq_ok_iff.2 ⟨d'.file, ?_, ?_⟩
  · change SavedAt d'.settingsToSave d'.file d'.file
    rw [hsame, hplace]
    exact hsavedAt.again
  · change d' = { d' with config := d'.settingsToSave }
    rw [hchange]

/-- Settings that were saved can always be started from, wherever they are kept. The desk then trusts the same
clients, has the same master screen, and knows exactly those clients that were trusted or had a screen, under
their names and all of them disconnected. If the arrangement is still without fault it comes back as it was,
and saving again changes nothing, neither in memory nor, at the same place, in the file. -/
theorem restart_faithful (h : start config file capacity opening = .ok d)
    (hpast : ∀ a ∈ past, a.isWhole = true) (hsaved : (d.after past).persist = (.ok (), saved))
    (place : Option ConfigFile) (room : Nat) (now : Time) :
    ∃ d', start saved.config place room now = .ok d' ∧
      d'.admission.trustedClients = (d.after past).admission.trustedClients ∧
      d'.layout.master = (d.after past).layout.master ∧
      (∀ id, d'.registry.contains id = true ↔ (d.after past).admission.isTrusted id = true ∨
        (d.after past).layout.screens.contains id = true) ∧
      (∀ id c', d'.registry.find? id = some c' → c'.phase = .disconnected ∧
        ∃ c, (d.after past).registry.find? id = some c ∧ c'.name = c.name) ∧
      ((d.after past).layout.validate (d.after past).registry.contains (d.after past).layout.placements =
          .ok () →
        d'.layout.placements = (d.after past).layout.placements ∧ d'.persist.2.config = saved.config ∧
          (place = saved.file → d'.persist = (.ok (), d'))) := by
  have hrec := recorded_after (recorded_start h) past
  have href := referenced_after (referenced_start h) hpast
  generalize d.after past = d at hsaved hrec href
  have hconfig : saved.config = d.settingsToSave := by
    obtain ⟨file, -, rfl⟩ := configure_eq_ok_iff.1 hsaved
    rfl
  rw [hconfig]
  obtain ⟨d', hstart⟩ := exists_restart hrec place room now
  refine ⟨d', hstart, ?_, master_restarted hstart hrec, ?_, ?_, ?_⟩
  · rw [Admission.trustedClients, trusted_restarted hstart href, Admission.trustedClients]
  · intro id
    rw [contains_restarted hstart href, keeps, Bool.or_eq_true]
  · intro id c' hc'
    rw [find?_restarted hstart, Option.map_eq_some_iff] at hc'
    obtain ⟨c, hc, rfl⟩ := hc'
    exact ⟨rfl, c, (Option.filter_eq_some_iff.1 hc).1, rfl⟩
  · intro hvalid
    have hlayout := layout_restarted hstart hrec href hvalid
    have hsame := settingsToSave_restarted hstart href hlayout
    obtain ⟨-, -, hloaded, hplace⟩ := start_parts hstart
    refine ⟨by rw [hlayout], ?_, fun heq => persist_again hsaved (hplace.trans heq) hloaded hsame⟩
    obtain ⟨file, heq⟩ := d'.persist_eq
    rw [heq, hsame]

theorem eq_ok_of_toOption {ε α : Type} {x : Except ε α} {a : α} (h : x.toOption = some a) : x = .ok a := by
  cases x with
  | error fault => cases h
  | ok b => rw [Option.some.inj h]

/-- The left one of two clients comes back under another name, other network settings are staged, and a guest
says hello; the latest act comes first. -/
def eveningBefore : List Act :=
  [.hello ⟨.ofNat 3, Hello.spokenVersion, "guest"⟩ .anyV4 3 (.ofNat 9) default,
    .stage ⟨25000, 25001, 25002, " fe80::1:0:0:2 "⟩,
    .hello ⟨.ofNat 1, Hello.spokenVersion, "left again"⟩ .anyV4 1 (.ofNat 8) default]

/-- The guest is forgotten overnight, and all else is as it was. -/
theorem morning_after : ∃ d saved d',
    start besideEachOther (some ⟨"desk", "desk/config.toml", .absent⟩) 8 0 = .ok d ∧
    (∀ a ∈ eveningBefore, a.isWhole = true) ∧ (d.after eveningBefore).persist = (.ok (), saved) ∧
    ((d.after eveningBefore).registry.clients.keys, (d.after eveningBefore).layout.validate
      (d.after eveningBefore).registry.contains (d.after eveningBefore).layout.placements) =
        ([.ofNat 1, .ofNat 2, .ofNat 3], .ok ()) ∧
    saved.config.clients = [⟨.ofNat 1, "left again", true⟩, ⟨.ofNat 2, "right", false⟩] ∧
    start saved.config saved.file 8 0 = .ok d' ∧ d'.admission.trustedClients = [.ofNat 1] ∧
    d'.registry.contains (.ofNat 2) = true ∧ d'.registry.contains (.ofNat 3) = false ∧
    d'.layout.placements = (d.after eveningBefore).layout.placements ∧ d'.persist = (.ok (), d') := by
  have hwhole : ∀ a ∈ eveningBefore, a.isWhole = true := by
    simp [eveningBefore, Act.isWhole]
  have hrun : (start besideEachOther (some ⟨"desk", "desk/config.toml", .absent⟩) 8 0).toOption.map (fun d =>
      (((d.after eveningBefore).persist.1.toOption, ((d.after eveningBefore).layout.validate
          (d.after eveningBefore).registry.contains (d.after eveningBefore).layout.placements).toOption),
        (d.after eveningBefore).persist.2.config.clients, (d.after eveningBefore).registry.clients.keys,
        (d.after eveningBefore).layout.screens.keys, (d.after eveningBefore).admission.trusted.keys)) =
        some ((some (), some ()), [⟨.ofNat 1, "left again", true⟩, ⟨.ofNat 2, "right", false⟩],
          [.ofNat 1, .ofNat 2, .ofNat 3], [.ofNat 1, .ofNat 2], [.ofNat 1]) := by
    decide +kernel
  obtain ⟨d, hd, hrun⟩ := exists_start hrun
  simp only [Prod.mk.injEq] at hrun
  obtain ⟨⟨hok, hvalid⟩, hclients, hkeys, hscreens, htrusted⟩ := hrun
  have hvalid := eq_ok_of_toOption hvalid
  have hsaved : (d.after eveningBefore).persist = (.ok (), (d.after eveningBefore).persist.2) :=
    Prod.ext (eq_ok_of_toOption hok) rfl
  obtain ⟨d', hstart, htrust, -, hknown, -, hvalid'⟩ := restart_faithful hd hwhole hsaved
    (d.after eveningBefore).persist.2.file 8 0
  obtain ⟨hplacements, -, hagain⟩ := hvalid' hvalid
  have hguest : ¬ ((d.after eveningBefore).admission.isTrusted (.ofNat 3) = true ∨
      (d.after eveningBefore).layout.screens.contains (.ofNat 3) = true) := by
    rw [Admission.isTrusted, ← Table.mem_keys_iff, ← Table.mem_keys_iff, hscreens, htrusted]
    decide
  have hright : (d.after eveningBefore).layout.screens.contains (.ofNat 2) = true := by
    rw [← Table.mem_keys_iff, hscreens]
    decide
  exact ⟨d, _, d', hd, hwhole, hsaved, by rw [hkeys, hvalid], hclients, hstart, htrust.trans htrusted,
    (hknown _).2 (.inr hright), Bool.eq_false_iff.2 fun h => hguest ((hknown _).1 h), hplacements, hagain rfl⟩

end Desk

end SharedDesk
