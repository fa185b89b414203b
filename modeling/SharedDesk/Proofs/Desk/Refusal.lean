import SharedDesk.Proofs.Desk.Restart
/-!
# What a failed command leaves behind

A command that fails before it has changed anything leaves the desk as it was; one that could only not save
its change leaves in memory what saving would have left there (`command_atomic`). Forgetting is the one command
that touches sessions and trust before it knows whether there is such a client: nobody unknown has either,
because every pending session is that of a pairing client (`Attended`) and all trust that of a known one.
-/

namespace SharedDesk

namespace Admission

/-- Every pending session is that of a pairing client, and no client has two. -/
structure Attended (sessions : Table Uuid Session) (r : Registry) : Prop where
  pairing : ∀ sid s, sessions.find? sid = some s → r.phase? s.client = some .pairing
  once : ∀ sid s sid' s', sessions.find? sid = some s → sessions.find? sid' = some s' →
    s.client = s'.client → sid = sid'

variable {sessions sessions' : Table Uuid Session} {m : Admission} {r r' : Registry} {id session : Uuid}
  {s : Session} {now : Time}

theorem attended_empty (r : Registry) : Attended .empty r := ⟨nofun, nofun⟩

/-- With some of the sessions gone, the phases of the others' clients are all that counts. -/
theorem Attended.of_sub (h : Attended sessions r)
    (hsub : ∀ sid s, sessions'.find? sid = some s → sessions.find? sid = some s)
    (hphase : ∀ sid s, sessions'.find? sid = some s → r.phase? s.client = some .pairing →
      r'.phase? s.client = some .pairing) : Attended sessions' r' where
  pairing sid s hs := hphase sid s hs (h.pairing sid s (hsub sid s hs))
  once sid s sid' s' hs hs' := h.once sid s sid' s' (hsub sid s hs) (hsub sid' s' hs')

theorem attended_dropped (h : Attended m.sessions r) (id : Uuid)
    (hr : ∀ j, j ≠ id → r'.phase? j = r.phase? j) : Attended (m.dropSessions id).sessions r' := by
  refine h.of_sub ?_ ?_
  · exact fun sid s hs => (find?_dropSessions_iff.1 hs).1
  · intro sid s hs hphase
    rw [hr _ (find?_dropSessions_iff.1 hs).2, hphase]

theorem attended_closed (h : Attended m.sessions r) (hs : m.sessions.find? session = some s)
    (hr : ∀ j, j ≠ s.client → r'.phase? j = r.phase? j) : Attended (m.closeSession session).sessions r' := by
  refine h.of_sub ?_ ?_
  · exact fun sid s hs => (find?_closeSession_iff.1 hs).2
  · intro sid s' hs' hphase
    obtain ⟨hne, hs'⟩ := find?_closeSession_iff.1 hs'
    have hother : s'.client ≠ s.client := fun hc => hne (h.once sid s' session s hs' hs hc)
    rw [hr _ hother, hphase]

/-- A session put in for a pairing client that has no other one. -/
theorem attended_insert (h : Attended sessions r) (session : Uuid) (s : Session)
    (hphase : r.phase? s.client = some .pairing)
    (honly : ∀ sid s', sessions.find? sid = some s' → s'.client = s.client → sid = session) :
    Attended (sessions.insert session s) r := by
  have hcases : ∀ sid s', (sessions.insert session s).find? sid = some s' →
      (sid = session ∧ s' = s) ∨ (sid ≠ session ∧ sessions.find? sid = some s') := by
    intro sid s' hs'
    rw [Table.find?_insert] at hs'
    split at hs'
    · rename_i hsid
      exact .inl ⟨hsid, (Option.some.inj hs').symm⟩
    · rename_i hsid
      exact .inr ⟨hsid, hs'⟩
  constructor
  · intro sid s' hs'
    rcases hcases sid s' hs' with ⟨-, rfl⟩ | ⟨-, hs'⟩
    · exact hphase
    · exact h.pairing sid s' hs'
  · intro sid s₁ sid' s₂ hs₁ hs₂ hc
    rcases hcases sid s₁ hs₁ with ⟨hsid₁, heq₁⟩ | ⟨hne₁, hold₁⟩ <;>
      rcases hcases sid' s₂ hs₂ with ⟨hsid₂, heq₂⟩ | ⟨hne₂, hold₂⟩
    · rw [hsid₁, hsid₂]
    · exact absurd (honly sid' s₂ hold₂ (by rw [← hc, heq₁])) hne₂
    · exact absurd (honly sid s₁ hold₁ (by rw [hc, heq₂])) hne₁
    · exact h.once sid s₁ sid' s₂ hold₁ hold₂ hc

theorem attended_welcome (h : Attended m.sessions r) (hello : Hello) (session : Uuid) (pin : Pin) :
    Attended (m.welcome r hello now session pin).admission.sessions
      (m.welcome r hello now session pin).registry := by
  have hothers : ∀ (c : Client) (j : Uuid), j ≠ hello.client →
      (r.store hello.client c).phase? j = r.phase? j := by
    intro c j hj
    rw [Registry.phase?_store, if_neg hj]
  have hr := welcome_reception m r hello now session pin
  generalize m.welcome r hello now session pin = o at hr
  cases hr with
  | refused | activated => exact attended_dropped h hello.client (hothers _)
  | invited =>
    refine attended_insert (attended_dropped h hello.client (hothers _)) session _ ?_ ?_
    · rw [Registry.phase?_store, if_pos rfl, Client.enter_phase]
    · exact fun sid s' hs' hc => absurd hc (find?_dropSessions_iff.1 hs').2

theorem attended_judge (h : Attended m.sessions r) (session : Uuid) (answer : String) (peer : Address)
    (now : Time) : Attended (m.judge r session answer peer now).admission.sessions
      (m.judge r session answer peer now).registry := by
  have hothers : ∀ (id : Uuid) (c : Client) (j : Uuid), j ≠ id → (r.store id c).phase? j = r.phase? j := by
    intro id c j hj
    rw [Registry.phase?_store, if_neg hj]
  have hv := judge_verdict m r session answer peer now
  generalize m.judge r session answer peer now = o at hv
  cases hv with
  | unknown => exact h
  | stale hs => exact attended_closed h hs fun _ _ => rfl
  | overflow hdoor => exact attended_closed h hdoor.session fun _ _ => rfl
  | late hdoor => exact attended_closed h hdoor.session (hothers _ _)
  | right hdoor => exact attended_closed h hdoor.session (hothers _ _)
  | last hdoor => exact attended_closed h hdoor.session (hothers _ _)
  | wrong hdoor =>
    refine attended_insert h session _ hdoor.phase? ?_
    exact fun sid s' hs' hc => h.once sid s' session _ hs' hdoor.session hc

theorem attended_disconnect (h : Attended m.sessions r) (id : Uuid) (now : Time) :
    Attended (m.disconnect r id now).admission.sessions (m.disconnect r id now).registry := by
  have hf := disconnect_farewell m r id now
  generalize m.disconnect r id now = o at hf
  cases hf with
  | unknown | idle => exact attended_dropped h id fun _ _ => rfl
  | closed =>
    refine attended_dropped h id fun j hj => ?_
    rw [Registry.phase?_store, if_neg hj]

/-- Of a client without session and trust there is nothing to forget. -/
theorem forget_of_stranger (hs : ∀ sid s, m.sessions.find? sid = some s → s.client ≠ id)
    (ht : m.isTrusted id = false) : (m.forget id).2 = m := by
  have hsessions : (m.dropSessions id).sessions = m.sessions := by
    refine Table.ext_find? fun sid => Option.ext fun s => ?_
    rw [find?_dropSessions_iff]
    exact and_iff_left_of_imp (hs sid s)
  have htrusted : m.trusted.erase id = m.trusted := by
    refine Table.ext_find? fun j => ?_
    rw [Table.find?_erase]
    split
    · rename_i hj
      exact (Option.isNone_iff_eq_none.1 (Option.isSome_eq_false_iff.1 (hj ▸ ht))).symm
    · rfl
  change { m with sessions := (m.dropSessions id).sessions, trusted := m.trusted.erase id } = m
  rw [hsessions, htrusted]

end Admission

/-! ## Commands -/

/-- What the operator may ask for. -/
inductive Command
  | getClients (now : Time)
  | getLayout
  | updateLayout (forms : List ScreenForm)
  | getNetwork
  | getActiveNetwork
  | updateNetwork (form : NetworkForm)
  | getSharing
  | setSharing (on : Bool)
  | forgetClient (text : String)

/-- What the operator is told. -/
inductive Reply
  | clients (views : List ClientView)
  | layout (forms : List ScreenForm)
  | network (form : NetworkForm)
  | staged (form : StagedForm)
  | sharing (on : Bool)
  | done

/-- The fault of a command that has changed the desk and could not save the change. -/
def CommandFault.isUnsaved : CommandFault → Bool
  | layoutNotSaved _ | settingsNotSaved _ | forgetNotSaved _ => true
  | badClientId _ | arrangement _ | registry _ | network _ => false

namespace Desk

open Admission (Attended)

/-- Carries a command out. -/
def command (d : Desk) : Command → Except CommandFault Reply × Desk
  | .getClients now => (.ok (.clients (d.getClients now)), d)
  | .getLayout => (d.getLayout.map .layout, d)
  | .updateLayout forms => ((d.updateLayout forms).1.map fun _ => .done, (d.updateLayout forms).2)
  | .getNetwork => (.ok (.network d.getNetwork), d)
  | .getActiveNetwork => (.ok (.network d.getActiveNetwork), d)
  | .updateNetwork form => ((d.updateNetwork form).1.map .staged, (d.updateNetwork form).2)
  | .getSharing => (.ok (.sharing d.getSharing), d)
  | .setSharing on => (.ok (.sharing (d.setSharing on).1), (d.setSharing on).2)
  | .forgetClient text => ((d.forgetClient text).1.map fun _ => .done, (d.forgetClient text).2)

/-- All of a desk but the place of its settings. -/
def memory (d : Desk) : Desk := { d with file := none }

variable {d : Desk} {a : Act} {past : List Act} {id : Uuid} {text : String} {config : Config}
  {file : Option ConfigFile} {capacity : Nat} {opening : Time}

/-! ## Sessions after every act -/

theorem attended_maintain (h : Attended d.admission.sessions d.registry) (now : Time) :
    Attended (d.maintain now).2.admission.sessions (d.maintain now).2.registry := by
  have hsessions := (Admission.abandonAll_spec (d.maintain now).1.timedOut (d.admission.purge now).2).1
  refine h.of_sub ?_ ?_
  · exact fun sid s hs => (Admission.find?_purge_iff.1 ((hsessions sid s).1 hs).1).1
  · intro sid s hs hphase
    obtain ⟨c, hc, hpairing⟩ := Registry.phase?_eq_some_iff.1 hphase
    have hstanding : d.registry.standing? s.client = some (.pairing, c.changedAt) := by
      rw [Registry.standing?, hc, ← hpairing]
      rfl
    -- A session stays only if the sweep leaves its client pairing.
    rcases Registry.sweep_of_pairing hstanding now d.liveness.sweepTimeouts
        (d.admission.purge now).2.isTrusted with ⟨-, hout⟩ | ⟨-, -, hkept⟩
    · exact absurd hout ((hsessions sid s).1 hs).2
    · rw [Registry.phase?_eq_map,
        show (d.maintain now).2.registry.standing? s.client = some (.pairing, c.changedAt) from hkept]
      rfl

theorem attended_act (h : Attended d.admission.sessions d.registry) (ha : a.isWhole = true) :
    Attended (d.act a).admission.sessions (d.act a).registry := by
  have hsame : ∀ {r : Registry}, (∀ j, r.standing? j = d.registry.standing? j) →
      Attended d.admission.sessions r := by
    intro r hr
    refine h.of_sub (fun _ _ hs => hs) fun sid s _ hphase => ?_
    rw [Registry.phase?_of_standing? (hr s.client), hphase]
  cases a with
  | hello hello peer now session pin =>
    rcases act_hello d hello peer now session pin with heq | ⟨-, heq⟩ <;> rw [heq]
    · exact h
    · exact Admission.attended_welcome h hello session pin
  | submit session answer peer now =>
    rcases act_submit d session answer peer now with heq | ⟨-, heq⟩ <;> rw [heq]
    · exact h
    · exact Admission.attended_judge h session answer peer now
  | disconnect j now => exact Admission.attended_disconnect h j now
  | forget text =>
    rw [act]
    cases hread : readClientId text with
    | error bad =>
      rw [forgetClient_of_error hread]
      exact h
    | ok j =>
      rw [forgetClient_admission hread]
      refine Admission.attended_dropped h j fun k hk => ?_
      rw [Registry.phase?, find?_forgetClient hread, if_neg hk, Registry.phase?]
  | maintain now => exact attended_maintain h now
  | probe settings now =>
    refine h.of_sub (fun _ _ hs => hs) fun sid s _ hphase => ?_
    rcases Registry.standing?_probeRound ProbeRound.throughQueue d.probes d.registry settings now s.client
      with hr | ⟨hactive, -⟩
    · exact (Registry.phase?_of_standing? hr).trans hphase
    · cases hphase.symm.trans hactive
  | reply j number now =>
    rw [admission_of_other rfl]
    exact hsame (standing?_reply d j number now)
  | arrange forms =>
    rw [act, (d.updateLayout_frame forms).1, (d.updateLayout_frame forms).2]
    exact h
  | stage form =>
    rw [act, (d.updateNetwork_frame form).1, (d.updateNetwork_frame form).2]
    exact h
  | flush => exact hsame (Registry.standing?_flush d.router d.registry)
  | abandon | purge | sweep => cases ha
  | share | point | focus | collect | read | transmit | disk => exact h

theorem attended_after (h : Attended d.admission.sessions d.registry)
    (hpast : ∀ a ∈ past, a.isWhole = true) :
    Attended (d.after past).admission.sessions (d.after past).registry := by
  induction past with
  | nil => exact h
  | cons a past ih =>
    obtain ⟨ha, hpast⟩ := List.forall_mem_cons.1 hpast
    exact attended_act (ih hpast) ha

theorem attended_start (h : start config file capacity opening = .ok d) :
    Attended d.admission.sessions d.registry := by
  rw [(start_admission h).2.1]
  exact Admission.attended_empty _

/-! ## What a command does -/

/-- All that a command can do, wherever the settings are kept: it is answered, it is refused and changes nothing,
or it changes the desk and then saves that, with an error of its own when it cannot. -/
inductive Effect (d : Desk) (c : Command) : Prop
  | answered (reply : Reply) (d' : Desk) :
      (∀ place, { d with file := place }.command c = (.ok reply, { d' with file := place })) → Effect d c
  | refused (fault : CommandFault) : fault.isUnsaved = false →
      (∀ place, { d with file := place }.command c = (.error fault, { d with file := place })) → Effect d c
  | saved (changed : Desk) (config : Config) (reply : Reply) (unsaved : ConfigFault → CommandFault) :
      (∀ fault, (unsaved fault).isUnsaved = true) →
      (∀ place, { d with file := place }.command c =
        match { changed with file := place }.configure fun _ => config with
        | (.ok (), d') => (.ok reply, d')
        | (.error fault, d') => (.error (unsaved fault), d')) → Effect d c

theorem effect_updateLayout (d : Desk) (forms : List ScreenForm) : Effect d (.updateLayout forms) := by
  cases hread : ScreenForm.placements forms with
  | error bad =>
    refine .refused (.badClientId bad) rfl fun place => ?_
    rw [command, updateLayout, hread]
    rfl
  | ok candidate =>
    cases hreplace : d.layout.replace d.registry.contains candidate with
    | error fault =>
      refine .refused (.arrangement (.invalid fault)) rfl fun place => ?_
      simp only [command, updateLayout, hread, arrange, hreplace]
      rfl
    | ok layout =>
      refine .saved { d with layout } { d with layout }.settingsToSave .done .layoutNotSaved (fun _ => rfl)
        fun place => ?_
      have hpersist : { d with layout, file := place }.persist =
          { d with layout, file := place }.configure fun _ => { d with layout }.settingsToSave := rfl
      simp only [command, updateLayout, hread, arrange, hreplace, hpersist]
      generalize configure _ _ = attempt
      rcases attempt with ⟨_ | _, d'⟩ <;> rfl

theorem effect_updateNetwork (d : Desk) (form : NetworkForm) : Effect d (.updateNetwork form) := by
  cases hread : form.settings with
  | error fault =>
    refine .refused (.network fault) rfl fun place => ?_
    rw [command, updateNetwork, hread]
    rfl
  | ok settings =>
    cases hstage : d.network.stage settings with
    | error fault =>
      refine .refused (.network fault) rfl fun place => ?_
      simp only [command, updateNetwork, hread, hstage]
      rfl
    | ok network =>
      refine .saved { d with network } { d.config with network := .ofSettings settings } (.staged
        ⟨network.restartRequired, .ofSettings settings⟩) .settingsNotSaved (fun _ => rfl) fun place => ?_
      have hstaged : ({ d with network, file := place }.configure fun c =>
            { c with network := .ofSettings settings }) =
          { d with network, file := place }.configure fun _ =>
            { d.config with network := .ofSettings settings } := rfl
      simp only [command, updateNetwork, hread, hstage, hstaged]
      generalize configure _ _ = attempt
      rcases attempt with ⟨_ | _, d'⟩ <;> rfl

/-- Of a client that is not known there is nothing to forget. -/
theorem forget_unknown (href : d.Referenced) (hsessions : Attended d.admission.sessions d.registry)
    (hunknown : d.registry.find? id = none) : (d.admission.forget id).2 = d.admission := by
  have hstranger : d.registry.contains id = false :=
    Option.isSome_eq_false_iff.2 (Option.isNone_iff_eq_none.2 hunknown)
  apply Admission.forget_of_stranger
  · rintro sid s hs rfl
    cases hstranger.symm.trans (Registry.contains_of_phase? (hsessions.pairing sid s hs))
  · rw [Bool.eq_false_iff]
    intro htrusted
    cases hstranger.symm.trans (href.trusted id htrusted)

theorem effect_forgetClient (href : d.Referenced) (hsessions : Attended d.admission.sessions d.registry)
    (text : String) : Effect d (.forgetClient text) := by
  cases hread : readClientId text with
  | error bad =>
    refine .refused (.badClientId bad) rfl fun place => ?_
    rw [command, forgetClient, hread]
    rfl
  | ok id =>
    cases hfind : d.registry.find? id with
    | none =>
      refine .refused (.registry (.unknownClient id)) rfl fun place => ?_
      simp only [command, forgetClient, hread, Registry.forget, hfind, forget_unknown href hsessions hfind]
      rfl
    | some c =>
      let forgotten := { d with
        admission := (d.admission.forget id).2
        registry := ⟨d.registry.clients.erase id⟩
        layout := d.layout.remove id
        router := d.router.forget id }
      refine .saved forgotten forgotten.settingsToSave .done .forgetNotSaved (fun _ => rfl) fun place => ?_
      have hpersist : { forgotten with file := place }.persist =
          { forgotten with file := place }.configure fun _ => forgotten.settingsToSave := rfl
      simp only [forgotten] at hpersist
      simp only [forgotten, command, forgetClient, hread, Registry.forget, hfind, hpersist]
      generalize configure _ _ = attempt
      rcases attempt with ⟨_ | _, d'⟩ <;> rfl

theorem effect_command (href : d.Referenced) (hsessions : Attended d.admission.sessions d.registry)
    (c : Command) : Effect d c := by
  cases c with
  | getLayout =>
    refine .answered (.layout (d.layout.placements.map ScreenForm.ofPlacement)) d fun place => ?_
    have hplaced : ({ d with file := place }).verify = .ok () := href.verify_eq
    rw [command, getLayout, hplaced]
    rfl
  | updateLayout forms => exact effect_updateLayout d forms
  | updateNetwork form => exact effect_updateNetwork d form
  | forgetClient text => exact effect_forgetClient href hsessions text
  | setSharing on => exact .answered (.sharing on) (d.setSharing on).2 fun _ => rfl
  | getClients now => exact .answered (.clients (d.getClients now)) d fun _ => rfl
  | getNetwork => exact .answered (.network d.getNetwork) d fun _ => rfl
  | getActiveNetwork => exact .answered (.network d.getActiveNetwork) d fun _ => rfl
  | getSharing => exact .answered (.sharing d.getSharing) d fun _ => rfl

/-! ## Commands that fail -/

theorem memory_configure (d : Desk) (place : Option ConfigFile) (change : Config → Config) :
    ({ d with file := place }.configure change).2.memory = { d with config := change d.config }.memory := by
  obtain ⟨file, heq⟩ := { d with file := place }.configure_eq change
  rw [heq]
  rfl

theorem Effect.unchanged {c : Command} {fault : CommandFault} (h : Effect d c)
    (hfault : (d.command c).1 = .error fault) (hunsaved : fault.isUnsaved = false) : (d.command c).2 = d := by
  cases h with
  | answered reply d' heq =>
    rw [show d.command c = _ from heq d.file] at hfault
    cases hfault
  | refused fault' _ heq => rw [show d.command c = _ from heq d.file]
  | saved changed config reply unsaved hunsaved' heq =>
    rw [show d.command c = _ from heq d.file] at hfault
    split at hfault
    · cases hfault
    · cases hfault
      cases hunsaved.symm.trans (hunsaved' _)

theorem Effect.as_if_saved {c : Command} {fault : CommandFault} (h : Effect d c)
    (hfault : (d.command c).1 = .error fault) (hunsaved : fault.isUnsaved = true) :
    (∃ reply, ({ d with file := none }.command c).1 = .ok reply) ∧
      ∀ place, (d.command c).2.memory = ({ d with file := place }.command c).2.memory := by
  cases h with
  | answered reply d' heq =>
    rw [show d.command c = _ from heq d.file] at hfault
    cases hfault
  | refused fault' hsaved heq =>
    rw [show d.command c = _ from heq d.file] at hfault
    cases hfault
    cases hunsaved.symm.trans hsaved
  | saved changed config reply unsaved _ heq =>
    have hmemory : ∀ place, ({ d with file := place }.command c).2.memory = { changed with config }.memory := by
      intro place
      rw [← memory_configure changed place fun _ => config, heq]
      split <;> rename_i hconfigure <;> rw [hconfigure]
    refine ⟨⟨reply, by rw [heq]; rfl⟩, fun place => ?_⟩
    exact (hmemory d.file).trans (hmemory place).symm

/-- Why a command fails, if it does. -/
def fault? (d : Desk) (c : Command) : Option CommandFault :=
  match (d.command c).1 with
  | .error fault => some fault
  | .ok _ => none

theorem fault?_eq_some_iff {c : Command} {fault : CommandFault} :
    d.fault? c = some fault ↔ (d.command c).1 = .error fault := by
  unfold fault?
  cases (d.command c).1 <;> simp

/-- After every run, a command that fails leaves the whole desk as it was, its file included, unless its only
fault is that the change was not saved. Then there is a place where it would have been saved, and in memory the
desk is just what it would have become wherever saving it had succeeded. -/
theorem command_atomic (h : start config file capacity opening = .ok d)
    (hpast : ∀ a ∈ past, a.isWhole = true) (c : Command) :
    let d := d.after past
    (∀ fault, (d.command c).1 = .error fault → fault.isUnsaved = false → (d.command c).2 = d) ∧
    ∀ fault, (d.command c).1 = .error fault → fault.isUnsaved = true →
      (∃ reply, ({ d with file := none }.command c).1 = .ok reply) ∧
      ∀ place reply, ({ d with file := place }.command c).1 = .ok reply →
        (d.command c).2.memory = ({ d with file := place }.command c).2.memory := by
  intro d
  have href : d.Referenced := referenced_after (referenced_start h) hpast
  have heffect := effect_command href (attended_after (attended_start h) hpast) c
  refine ⟨fun fault hfault hunsaved => heffect.unchanged hfault hunsaved, fun fault hfault hunsaved => ?_⟩
  obtain ⟨hreply, hsame⟩ := heffect.as_if_saved hfault hunsaved
  exact ⟨hreply, fun place _ _ => hsame place⟩

/-- Nobody is forgotten whom the desk does not know; and the left one is forgotten although a file stands where
the folder of the settings belongs. -/
theorem forgotten_beside_blocked_file : ∃ d,
    start besideEachOther (some ⟨"desk", "desk/config.toml", .blocked⟩) 8 0 = .ok d ∧
    (∀ a ∈ bothArrive, a.isWhole = true) ∧
    ((d.after bothArrive).command (.forgetClient "00000000-0000-0000-0000-000000000003")).1 =
      .error (.registry (.unknownClient (.ofNat 3))) ∧
    ((d.after bothArrive).command (.forgetClient "00000000-0000-0000-0000-000000000003")).2 =
      d.after bothArrive ∧
    ((d.after bothArrive).command (.forgetClient "00000000-0000-0000-0000-000000000001")).1 =
      .error (.forgetNotSaved (.access "desk" .alreadyExists)) ∧
    ((d.after bothArrive).command (.forgetClient "00000000-0000-0000-0000-000000000001")).2.memory =
      ({ d.after bothArrive with file := none }.command
        (.forgetClient "00000000-0000-0000-0000-000000000001")).2.memory := by
  have hwhole : ∀ a ∈ bothArrive, a.isWhole = true := by
    simp [bothArrive, Act.isWhole]
  have hrun : (start besideEachOther (some ⟨"desk", "desk/config.toml", .blocked⟩) 8 0).toOption.map (fun d =>
      ((d.after bothArrive).fault? (.forgetClient "00000000-0000-0000-0000-000000000003"),
        (d.after bothArrive).fault? (.forgetClient "00000000-0000-0000-0000-000000000001"))) =
        some (some (.registry (.unknownClient (.ofNat 3))),
          some (.forgetNotSaved (.access "desk" .alreadyExists))) := by
    decide +kernel
  obtain ⟨d, hd, hrun⟩ := exists_start hrun
  obtain ⟨hnobody, hleft⟩ := Prod.mk.inj hrun
  have hnobody := fault?_eq_some_iff.1 hnobody
  have hleft := fault?_eq_some_iff.1 hleft
  obtain ⟨hrefused, -⟩ := command_atomic hd hwhole (.forgetClient "00000000-0000-0000-0000-000000000003")
  obtain ⟨-, hunsaved⟩ := command_atomic hd hwhole (.forgetClient "00000000-0000-0000-0000-000000000001")
  obtain ⟨⟨reply, hreply⟩, hsame⟩ := hunsaved _ hleft rfl
  exact ⟨d, hd, hwhole, hnobody, hrefused _ hnobody rfl, hleft, hsame _ _ hreply⟩

end Desk

end SharedDesk
