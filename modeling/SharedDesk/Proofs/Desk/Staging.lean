import SharedDesk.Proofs.Desk.Restart
/-!
# The copies of the network settings

The settings that are in use stay those of the start, and those for the next start are the last ones that were
asked for without a fault (`lastStaged`, `network_after`), whatever else happens and whether or not they could be
saved. The settings in memory describe the latter at any time, so a restart uses what was shown before it
(`copies_agree`).
-/

namespace SharedDesk.Desk

variable {d : Desk} {a : Act} {past : List Act} {config : Config} {file : Option ConfigFile} {capacity : Nat}
  {opening : Time} {form : NetworkForm} {settings first : NetworkSettings}

/-- The last network settings without a fault that were asked for, or the first ones. -/
def lastStaged (first : NetworkSettings) : List Act → NetworkSettings
  | [] => first
  | .stage form :: past =>
    match form.settings with
    | .ok settings => settings
    | .error _ => lastStaged first past
  | _ :: past => lastStaged first past

/-! ## One act -/

@[simp]
theorem configure_network (d : Desk) (change : Config → Config) :
    (d.configure change).2.network = d.network := by
  obtain ⟨file, h⟩ := d.configure_eq change
  rw [h]

theorem network_updateNetwork (d : Desk) (form : NetworkForm) : (d.updateNetwork form).2.network =
    match form.settings with
    | .ok settings => { d.network with staged := settings }
    | .error _ => d.network := by
  cases hform : form.settings with
  | error fault => rw [updateNetwork, hform]
  | ok settings =>
    have hstage : d.network.stage settings = .ok { d.network with staged := settings } :=
      (StagedNetwork.stage_eq_ok_iff ..).2 ⟨NetworkSettings.validate_of_ofParts hform, rfl⟩
    have hkept := configure_network { d with network := { d.network with staged := settings } }
      fun c => { c with network := .ofSettings settings }
    rw [updateNetwork, hform]
    dsimp only
    rw [hstage]
    dsimp only
    split <;> rename_i hsaved <;> rw [hsaved] at hkept <;> exact hkept

/-- Only asking for other network settings changes what is kept about them. -/
theorem network_act (d : Desk) (a : Act) : (d.act a).network =
    match a with
    | .stage form => (d.updateNetwork form).2.network
    | _ => d.network := by
  cases a with
  | forget text =>
    rw [act]
    cases h : readClientId text with
    | error bad => rw [forgetClient_of_error h]
    | ok id =>
      rcases forgetClient_writes h d with ⟨-, hw⟩ | hw <;> rw [hw]
      rw [persist, configure_network]
  | arrange forms =>
    rw [act]
    rcases d.updateLayout_writes forms with hw | ⟨candidate, layout, -, -, hw⟩ <;> rw [hw]
    rw [persist, configure_network]
  | reply id number now =>
    rw [act, reply]
    split <;> rfl
  | _ => rfl

/-! ## Every run -/

theorem network_start (h : start config file capacity opening = .ok d) :
    ∃ first, config.network.settings = .ok first ∧ d.network = .starting first := by
  unfold start at h
  split at h
  · cases h
  · rename_i first hfirst
    cases h
    exact ⟨first, hfirst, rfl⟩

theorem network_after (h : d.network = .starting first) (past : List Act) :
    (d.after past).network = ⟨first, lastStaged first past⟩ := by
  induction past with
  | nil => exact h
  | cons a past ih =>
    rw [after, network_act]
    cases a with
    | stage form =>
      dsimp only
      rw [network_updateNetwork, ih, lastStaged]
      cases form.settings <;> rfl
    | _ => exact ih

theorem validate_lastStaged (h : first.validate = .ok ()) (past : List Act) :
    (lastStaged first past).validate = .ok () := by
  induction past with
  | nil => exact h
  | cons a past ih =>
    cases a with
    | stage form =>
      rw [lastStaged]
      split
      · exact NetworkSettings.validate_of_ofParts ‹_›
      · exact ih
    | _ => exact ih

theorem restartRequired_iff (n : StagedNetwork) : n.restartRequired = true ↔ n.staged ≠ n.active := bne_iff_ne

/-- A network command that succeeds answers with what it staged, and whether that differs from what is in use. -/
theorem updateNetwork_reply {reply : StagedForm} (h : (d.updateNetwork form).1 = .ok reply) :
    reply = ⟨(d.updateNetwork form).2.network.restartRequired, (d.updateNetwork form).2.getNetwork⟩ := by
  have hkept := d.network_updateNetwork form
  unfold updateNetwork at h
  split at h
  · cases h
  · rename_i settings hform
    rw [hform] at hkept
    dsimp only at hkept
    rw [getNetwork, hkept]
    split at h
    · cases h
    · rename_i network hstage
      obtain ⟨-, rfl⟩ := (StagedNetwork.stage_eq_ok_iff ..).1 hstage
      split at h <;> cases h
      rfl

/-- After every run the network settings in use are those of the start, and those for the next start are the last ones
that were asked for without a fault: three different ports from 1024 on. The settings in memory describe the latter,
so a desk can be started from them, wherever they are kept, and it uses what was shown before. A restart is said
to be required, at any time and in the answer to a change, exactly when the two differ. -/
theorem copies_agree (h : start config file capacity opening = .ok d) (past : List Act) :
    ∃ first, config.network.settings = .ok first ∧
      let d := d.after past
      d.network.active = first ∧ d.network.staged = lastStaged first past ∧ d.network.staged.Bindable ∧
      d.config.network.settings = .ok d.network.staged ∧
      (∀ place room now, ∃ restarted, start d.config place room now = .ok restarted ∧
        restarted.network.active = d.network.staged ∧ restarted.getActiveNetwork = d.getNetwork) ∧
      (d.network.restartRequired = true ↔ d.network.staged ≠ d.network.active) ∧
      ∀ form reply, (d.updateNetwork form).1 = .ok reply → reply.settings = (d.updateNetwork form).2.getNetwork ∧
        (reply.restartRequired = true ↔ (d.updateNetwork form).2.network.staged ≠ first) := by
  obtain ⟨first, hfirst, hstarting⟩ := network_start h
  have hnetwork := network_after hstarting past
  have hrecorded := (recorded_after (recorded_start h) past).network
  refine ⟨first, hfirst, ?_⟩
  generalize d.after past = d at hnetwork hrecorded
  dsimp only
  refine ⟨by rw [hnetwork], by rw [hnetwork], ?_, hrecorded, ?_, restartRequired_iff _, ?_⟩
  · rw [hnetwork]
    exact NetworkSettings.validate_eq_ok_iff.1 (validate_lastStaged (NetworkSettings.validate_of_ofParts hfirst) past)
  · intro place room now
    obtain ⟨restarted, hrestarted⟩ : ∃ restarted, start d.config place room now = .ok restarted := by
      rw [start, hrecorded]
      exact ⟨_, rfl⟩
    obtain ⟨read, hread, hnew⟩ := network_start hrestarted
    obtain rfl : d.network.staged = read := Except.ok.inj (hrecorded.symm.trans hread)
    exact ⟨restarted, hrestarted, by rw [hnew]; rfl, by rw [getActiveNetwork, hnew]; rfl⟩
  · intro form reply hreply
    have hactive : (d.updateNetwork form).2.network.active = first := by
      rw [network_updateNetwork, hnetwork]
      cases form.settings <;> rfl
    rw [updateNetwork_reply hreply]
    exact ⟨rfl, by rw [restartRequired_iff, hactive]⟩

/-- A file gets in the way of the settings, then other network settings are staged, and at last some with a privileged
port are refused; the latest act comes first. -/
def movingHouse : List Act :=
  [.stage ⟨80, 25001, 25002, "0.0.0.0"⟩, .stage ⟨25000, 25001, 25002, " fe80::1:0:0:2 "⟩,
    .disk (some ⟨"desk", "desk/config.toml", .blocked⟩)]

theorem moved_after_restart : ∃ d restarted, start {} none 8 0 = .ok d ∧
    (d.after movingHouse).getActiveNetwork = ⟨24800, 24801, 24802, "0.0.0.0"⟩ ∧
    (d.after movingHouse).network.restartRequired = true ∧
    start (d.after movingHouse).config none 8 1 = .ok restarted ∧
    restarted.getActiveNetwork = ⟨25000, 25001, 25002, "fe80::1:0:0:2"⟩ := by
  have hrun : (start {} none 8 0).toOption.map (fun d =>
      ((d.after movingHouse).getActiveNetwork, (d.after movingHouse).getNetwork,
        decide ((d.after movingHouse).network.staged ≠ (d.after movingHouse).network.active))) =
      some (⟨24800, 24801, 24802, "0.0.0.0"⟩, ⟨25000, 25001, 25002, "fe80::1:0:0:2"⟩, true) := by
    decide +kernel
  obtain ⟨d, hd, hrun⟩ := exists_start hrun
  simp only [Prod.mk.injEq] at hrun
  obtain ⟨hactive, hstaged, hdiffer⟩ := hrun
  obtain ⟨-, -, -, -, -, -, hrestart, hrequired, -⟩ := copies_agree hd movingHouse
  obtain ⟨restarted, hrestarted, -, hsame⟩ := hrestart none 8 1
  exact ⟨d, restarted, hd, hactive, hrequired.2 (of_decide_eq_true hdiffer), hrestarted, hsame.trans hstaged⟩

end SharedDesk.Desk
