import SharedDesk.Proofs.Desk.Lockout
import SharedDesk.Proofs.Desk.References
import SharedDesk.Proofs.Registry.Counting
import SharedDesk.Proofs.Router.Routing
/-!
# What an act does to routing

Of the router, the arrangement and the event counters it is told here what one act of a desk makes of them:
`router_act`, `layout_act` and `counting_act`. All else about routing on a desk follows from these three.
-/

namespace SharedDesk.Desk

variable {d : Desk} {a : Act} {past : List Act} {id : Uuid} {c c' : Client} {config : Config}
  {file : Option ConfigFile} {capacity : Nat} {opening : Time}

/-! ## The router -/

/-- The router after an act. -/
def rerouted (d : Desk) : Act → Router
  | .share on => d.router.setSharing on
  | .point x y now => d.router.sent (d.router.pointerTarget d.layout d.registry x y) now
  | .focus now => d.router.sent (d.router.focusTarget d.registry) now
  | .forget text =>
    match readClientId text with
    | .ok id => if d.registry.contains id then d.router.forget id else d.router
    | .error _ => d.router
  | .flush | .collect => { d.router with pending := .empty }
  | _ => d.router

theorem router_act (d : Desk) (a : Act) : (d.act a).router = d.rerouted a := by
  cases a with
  | forget text =>
    rw [act, rerouted]
    cases hread : readClientId text with
    | error bad => rw [forgetClient_of_error hread]
    | ok id =>
      cases hc : d.registry.find? id with
      | none =>
        have hunknown : d.registry.contains id = false :=
          Option.isSome_eq_false_iff.2 (Option.isNone_iff_eq_none.2 hc)
        simp [forgetClient, hread, Registry.forget, hc, hunknown]
      | some c =>
        have hknown : d.registry.contains id = true := Registry.contains_iff.2 ⟨c, hc⟩
        rw [(forgetClient_parts hread hknown).2.2.2]
        exact (if_pos hknown).symm
  | arrange forms =>
    rcases d.updateLayout_writes forms with hw | ⟨candidate, layout, -, -, hw⟩
    · rw [act, hw]
      rfl
    · rw [act, hw, persist, configure_router]
      rfl
  | stage form =>
    rcases d.updateNetwork_writes form with hw | ⟨settings, network, -, -, hw⟩
    · rw [act, hw]
      rfl
    · rw [act, hw, configure_router]
      rfl
  | reply id number now =>
    rw [act, reply]
    split <;> rfl
  | _ => rfl

theorem router_start (h : start config file capacity opening = .ok d) : d.router = .idle := by
  unfold start at h
  split at h <;> cases h
  rfl

theorem quiet_act (h : d.router.Quiet) (a : Act) : (d.act a).router.Quiet := by
  rw [router_act]
  cases a with
  | share on => exact d.router.quiet_setSharing on
  | point x y now => exact d.router.quiet_pointer d.layout d.registry x y now
  | focus now => exact d.router.quiet_focus d.registry now
  | forget text =>
    rw [rerouted]
    split
    · split
      · exact h.forget _
      · exact h
    · exact h
  | _ => exact h

theorem quiet_after (h : d.router.Quiet) (past : List Act) : (d.after past).router.Quiet := by
  induction past with
  | nil => exact h
  | cons a past ih => exact quiet_act ih a

/-! ## The arrangement -/

/-- How the arrangement came to be what it is after an act. -/
inductive LayoutFrom (d : Desk) : Act → Layout → Prop
  | kept {a : Act} : LayoutFrom d a d.layout
  | arranged {forms : List ScreenForm} {candidate : List Placement} {layout : Layout} :
      d.layout.replace d.registry.contains candidate = .ok layout → LayoutFrom d (.arrange forms) layout
  | removed {text : String} {id : Uuid} : readClientId text = .ok id →
      LayoutFrom d (.forget text) (d.layout.remove id)
  | pruned {a : Act} : LayoutFrom d a (d.layout.prune (d.act a).registry.contains)

theorem layout_act (d : Desk) (a : Act) : LayoutFrom d a (d.act a).layout := by
  -- A sweep prunes the arrangement, or finds nobody to remove.
  have hswept : ∀ (r : Registry) (timeouts : SweepTimeouts) (retain : Uuid → Bool) (now : Time),
      (d.act a).registry = (r.sweep now timeouts retain).2 →
      (d.act a).layout = (sweepAll r d.layout timeouts now retain).2.2 → LayoutFrom d a (d.act a).layout := by
    intro r timeouts retain now hregistry hlayout
    have hpruned : (d.act a).layout = if (r.sweep now timeouts retain).1.removed.isEmpty then d.layout
        else d.layout.prune (r.sweep now timeouts retain).2.contains := hlayout
    rw [hpruned, ← hregistry]
    split
    · exact .kept
    · exact .pruned
  cases a with
  | forget text =>
    rw [act]
    cases hread : readClientId text with
    | error bad =>
      rw [forgetClient_of_error hread]
      exact .kept
    | ok id =>
      rcases forgetClient_writes hread d with ⟨-, hw⟩ | hw
      · rw [hw]
        exact .kept
      · rw [hw, persist, configure_layout]
        exact .removed hread
  | arrange forms =>
    rw [act]
    rcases d.updateLayout_writes forms with hw | ⟨candidate, layout, -, hreplace, hw⟩
    · rw [hw]
      exact .kept
    · rw [hw, persist, configure_layout]
      exact .arranged hreplace
  | stage form =>
    rw [act]
    rcases d.updateNetwork_writes form with hw | ⟨settings, network, -, -, hw⟩
    · rw [hw]
      exact .kept
    · rw [hw, configure_layout]
      exact .kept
  | sweep timeouts retain now => exact hswept d.registry timeouts retain now rfl rfl
  | maintain now =>
    exact hswept d.registry d.liveness.sweepTimeouts (d.admission.purge now).2.isTrusted now rfl rfl
  | reply id number now =>
    rw [act, reply]
    split <;> exact .kept
  | _ => exact .kept

/-- The arrangement has come about by replacing, removing and pruning. -/
def Arranged (d : Desk) : Prop := ∃ width height accepted kept, Layout.Edited width height accepted kept d.layout

theorem arranged_start (h : start config file capacity opening = .ok d) : d.Arranged := by
  unfold start at h
  split at h <;> cases h
  unfold Arranged storedLayout
  dsimp only
  split
  · rename_i layout hreplace
    exact ⟨_, _, _, _, .replaced _ _ .bare hreplace⟩
  · exact ⟨_, _, _, _, .bare⟩

theorem Arranged.act (h : d.Arranged) (a : Act) : (d.act a).Arranged := by
  obtain ⟨width, height, accepted, kept, hedited⟩ := h
  have hfrom := layout_act d a
  unfold Arranged
  generalize (d.act a).layout = layout at hfrom
  cases hfrom with
  | kept => exact ⟨_, _, _, _, hedited⟩
  | arranged hreplace => exact ⟨_, _, _, _, .replaced _ _ hedited hreplace⟩
  | removed _ => exact ⟨_, _, _, _, .removed _ hedited⟩
  | pruned => exact ⟨_, _, _, _, .pruned _ hedited⟩

theorem Arranged.after (h : d.Arranged) (past : List Act) : (d.after past).Arranged := by
  induction past with
  | nil => exact h
  | cons a past ih => exact ih.act a

/-! ## The counters -/

/-- The buckets that an act hands over to the counter of a client. -/
def handsOver (d : Desk) (id : Uuid) : Act → List Bucket
  | .flush => d.router.bucketsOf id
  | _ => []

theorem events_greeted (r : Registry) (id : Uuid) (name : String) (now : Time) :
    (r.greeted id name now).events = ((r.find? id).map Client.events).getD (.opening rateWidth now) := by
  unfold Registry.greeted
  cases r.find? id with
  | none => rfl
  | some c =>
    dsimp only
    unfold Client.greetAgain
    split <;> rfl

theorem counting_welcome {m : Admission} {r : Registry} {h : Hello} {now : Time} {session : Uuid} {pin : Pin}
    (hc : (m.welcome r h now session pin).registry.find? h.client = some c') :
    Counting (some now) [] True (r.find? h.client) c' := by
  have hphase := r.greeted_phase h.client (Hello.displayName h.name) now
  have hevents := events_greeted r h.client (Hello.displayName h.name) now
  have hstored : ∀ g : Client, (r.store h.client g).find? h.client = some c' → c' = g := by
    intro g hg
    rw [Registry.find?_store, if_pos rfl] at hg
    exact (Option.some.inj hg).symm
  have hconnected : ((r.greeted h.client (Hello.displayName h.name) now).enter .connected now).phase ≠ .active := nofun
  have hr := Admission.welcome_reception m r h now session pin
  generalize m.welcome r h now session pin = o at hc hr
  cases hr with
  | refused =>
    rw [hstored _ hc]
    exact .of_hello (by simp [hphase]) hevents .disconnected
  | activated =>
    rw [hstored _ hc]
    exact .of_hello hconnected hevents .active
  | invited =>
    rw [hstored _ hc]
    exact .of_hello hconnected hevents .pairing

/-- A client enters a phase, which may be the record asked for or another one. -/
theorem counting_entered {r : Registry} {j : Uuid} {p : Phase} {now : Time} (hj : r.find? j = some c)
    (h : (r.store j (c.enter p now)).find? id = some c') : Counting (some now) [] False (r.find? id) c' := by
  rw [Registry.find?_store] at h
  split at h
  · rename_i hid
    rw [hid, hj, ← Option.some.inj h]
    exact .of_enter rfl rfl p rfl not_false
  · rw [h]
    exact .of_same rfl rfl not_false

theorem counting_judge {m : Admission} {r : Registry} {session : Uuid} {answer : String} {peer : Address}
    {now : Time} (h : (m.judge r session answer peer now).registry.find? id = some c') :
    Counting (some now) [] False (r.find? id) c' := by
  have hv := Admission.judge_verdict m r session answer peer now
  generalize m.judge r session answer peer now = o at h hv
  cases hv with
  | unknown | stale | wrong | overflow =>
    rw [h]
    exact .of_same rfl rfl not_false
  | late hdoor | right hdoor | last hdoor => exact counting_entered hdoor.record h

theorem counting_disconnect {m : Admission} {r : Registry} {j : Uuid} {now : Time}
    (h : (m.disconnect r j now).registry.find? id = some c') : Counting (some now) [] False (r.find? id) c' := by
  have hf := Admission.disconnect_farewell m r j now
  generalize m.disconnect r j now = o at h hf
  cases hf with
  | closed hj => exact counting_entered hj h
  | unknown | idle =>
    rw [show r.find? id = some c' from h]
    exact .of_same rfl rfl not_false

theorem counting_act (h : (d.act a).registry.find? id = some c') :
    Counting a.time? (d.handsOver id a) (a.Greets d id) (d.registry.find? id) c' := by
  -- Most acts leave the record as it is.
  have hsame : d.registry.find? id = some c' → d.handsOver id a = [] → ¬ a.Greets d id →
      Counting a.time? (d.handsOver id a) (a.Greets d id) (d.registry.find? id) c' := by
    intro hfound hnone hgreets
    rw [hfound, hnone]
    exact .of_same rfl rfl hgreets
  cases a with
  | hello hello peer now session pin =>
    cases hl : d.admission.lockedOut? peer now with
    | some n =>
      rw [act, hello_of_locked hl] at h
      exact hsame h rfl fun hg => Option.some_ne_none n (hl.symm.trans hg.2)
    | none =>
      rw [act, hello_of_free hl, take] at h
      by_cases hid : hello.client = id
      · subst hid
        have hgreets : Act.Greets d hello.client (.hello hello peer now session pin) = True := eq_true ⟨rfl, hl⟩
        rw [hgreets]
        exact counting_welcome h
      · rw [Admission.record_welcome (Ne.symm hid)] at h
        exact hsame h rfl fun hg => hid hg.1
  | submit session answer peer now =>
    cases hl : d.admission.lockedOut? peer now with
    | some n =>
      rw [act, submit_of_locked hl] at h
      exact hsame h rfl not_false
    | none =>
      rw [act, submit_of_free hl, take] at h
      exact counting_judge h
  | disconnect j now => exact counting_disconnect h
  | forget text =>
    rw [act] at h
    cases hread : readClientId text with
    | error bad =>
      rw [forgetClient_of_error hread] at h
      exact hsame h rfl not_false
    | ok j =>
      rw [find?_forgetClient hread] at h
      split at h
      · cases h
      · exact hsame h rfl not_false
  | sweep timeouts retain now =>
    have hswept : (d.registry.operate (.sweep now timeouts retain)).find? id = some c' := h
    exact Registry.counting_operate hswept
  | maintain now =>
    have hswept : (d.registry.operate (.sweep now d.liveness.sweepTimeouts
      (d.admission.purge now).2.isTrusted)).find? id = some c' := h
    exact Registry.counting_operate hswept
  | probe settings now =>
    have hprobed : (((d.registry.expireProbes now settings.probeTimeout settings.missThreshold).2.startProbes
      now).2).find? id = some c' := h
    rw [Registry.find?_startProbes, Registry.find?_expireProbes] at hprobed
    cases hc : d.registry.find? id with
    | none =>
      rw [hc] at hprobed
      cases hprobed
    | some c =>
      rw [hc] at hprobed
      rw [← Option.some.inj hprobed]
      exact (Counting.of_expireProbe c settings.probeTimeout settings.missThreshold rfl not_false).then_probe now
  | reply j number now =>
    have hreplied : (d.act (.reply j number now)).registry = d.registry.operate (.reply j number now) := by
      rw [act, reply, Registry.operate]
      cases d.registry.answer j number now <;> rfl
    rw [hreplied] at h
    exact Registry.counting_operate h
  | arrange forms =>
    rw [act, (d.updateLayout_frame forms).2] at h
    exact hsame h rfl not_false
  | stage form =>
    rw [act, (d.updateNetwork_frame form).2] at h
    exact hsame h rfl not_false
  | flush =>
    have hflushed : (d.router.flush d.registry).2.find? id = some c' := h
    rw [Registry.find?_flush] at hflushed
    obtain ⟨c, hc, rfl⟩ := Option.map_eq_some_iff.1 hflushed
    rw [hc]
    exact .kept (fun hactive => ⟨hactive, not_false⟩) rfl
  | abandon | purge | share | point | focus | collect | read | transmit | disk => exact hsame h rfl not_false

end SharedDesk.Desk
