import SharedDesk.Proofs.Desk.Run
import SharedDesk.Proofs.Desk.Start
import SharedDesk.Proofs.Layout.Validation
import SharedDesk.Proofs.Table
import Mathlib.Control.Monad.Basic
/-!
# Who is referred to is known

Screens and trust belong to clients of the registry (`Referenced`): a new screen or new trust is given to a
client that is known (`screens_act`, `isTrusted_act`), and a client that goes takes its screen and its trust
with it (`gone_act`). Of a client that is forgotten nothing is left, and nothing else changes
(`no_dangling_references`).
-/

namespace SharedDesk

namespace Act

/-- An act after which a client may not be known any more. -/
def drops : Act → Bool
  | .forget _ | .sweep .. | .maintain _ => true
  | _ => false

end Act

namespace Admission

theorem keeps_welcome (m : Admission) (r : Registry) (h : Hello) (now : Time) (session : Uuid) (pin : Pin) :
    r.Keeps (m.welcome r h now session pin).registry := by
  have hr := welcome_reception m r h now session pin
  generalize m.welcome r h now session pin = o at hr
  cases hr <;> apply Registry.keeps_store

theorem keeps_judge (m : Admission) (r : Registry) (session : Uuid) (answer : String) (peer : Address)
    (now : Time) : r.Keeps (m.judge r session answer peer now).registry := by
  have hv := judge_verdict m r session answer peer now
  generalize m.judge r session answer peer now = o at hv
  cases hv with
  | unknown | stale | wrong | overflow => exact fun _ h => h
  | late | right | last => apply Registry.keeps_store

theorem keeps_disconnect (m : Admission) (r : Registry) (id : Uuid) (now : Time) :
    r.Keeps (m.disconnect r id now).registry := by
  have hf := disconnect_farewell m r id now
  generalize m.disconnect r id now = o at hf
  cases hf with
  | unknown | idle => exact fun _ h => h
  | closed => apply Registry.keeps_store

end Admission

namespace Desk

/-- Every screen and all trust is that of a client that is known. -/
structure Referenced (d : Desk) : Prop where
  screens : ∀ id, d.layout.screens.contains id = true → d.registry.contains id = true
  trusted : ∀ id, d.admission.isTrusted id = true → d.registry.contains id = true

/-- Nothing on the desk is about a client. -/
structure Lacks (d : Desk) (id : Uuid) : Prop where
  registry : d.registry.find? id = none
  screens : d.layout.screens.find? id = none
  trusted : d.admission.isTrusted id = false
  sessions : ∀ sid s, d.admission.sessions.find? sid = some s → s.client ≠ id
  target : d.router.target ≠ .client id
  pending : d.router.pending.find? id = none

/-- Two desks hold the same about a client. -/
structure AgreeOn (d d' : Desk) (id : Uuid) : Prop where
  registry : d'.registry.find? id = d.registry.find? id
  screens : d'.layout.screens.find? id = d.layout.screens.find? id
  trusted : d'.admission.isTrusted id = d.admission.isTrusted id
  sessions : ∀ sid s, s.client = id →
    (d'.admission.sessions.find? sid = some s ↔ d.admission.sessions.find? sid = some s)
  target : d'.router.target = .client id ↔ d.router.target = .client id
  pending : d'.router.pending.find? id = d.router.pending.find? id

variable {d : Desk} {a : Act} {past : List Act} {id j : Uuid} {text : String} {config : Config}
  {file : Option ConfigFile} {capacity : Nat} {opening : Time}

/-! ## Forgetting -/

theorem forgetClient_parts (h : readClientId text = .ok id) (hknown : d.registry.contains id = true) :
    (d.forgetClient text).2.registry = ⟨d.registry.clients.erase id⟩ ∧
      (d.forgetClient text).2.layout = d.layout.remove id ∧
      (d.forgetClient text).2.admission = (d.admission.forget id).2 ∧
      (d.forgetClient text).2.router = d.router.forget id := by
  rcases forgetClient_writes h d with ⟨hnone, -⟩ | hw
  · obtain ⟨c, hc⟩ := Registry.contains_iff.1 hknown
    cases hnone.symm.trans hc
  · rw [hw, persist, configure_registry, configure_layout, configure_admission, configure_router]
    exact ⟨rfl, rfl, rfl, rfl⟩

theorem lacks_forgotten (h : readClientId text = .ok id) (hknown : d.registry.contains id = true) :
    (d.forgetClient text).2.Lacks id := by
  obtain ⟨hregistry, hlayout, hadmission, hrouter⟩ := forgetClient_parts h hknown
  constructor
  · rw [hregistry, Registry.find?_erase, if_pos rfl]
  · rw [hlayout, Layout.remove, Table.find?_erase, if_pos rfl]
  · simp [hadmission]
  · intro sid s hs
    rw [hadmission] at hs
    exact (Admission.find?_dropSessions_iff.1 hs).2
  · rw [hrouter, Router.forget]
    dsimp only
    split
    · nofun
    · assumption
  · rw [hrouter, Router.forget, Table.find?_erase, if_pos rfl]

theorem agreeOn_forgotten (h : readClientId text = .ok id) (hknown : d.registry.contains id = true)
    (hj : j ≠ id) : AgreeOn d (d.forgetClient text).2 j := by
  obtain ⟨hregistry, hlayout, hadmission, hrouter⟩ := forgetClient_parts h hknown
  constructor
  · rw [hregistry, Registry.find?_erase, if_neg hj]
  · rw [hlayout, Layout.remove, Table.find?_erase, if_neg hj]
  · simp [hadmission, hj]
  · intro sid s hc
    rw [hadmission]
    exact Admission.find?_dropSessions_iff.trans (and_iff_left (hc ▸ hj))
  · rw [hrouter, Router.forget]
    dsimp only
    split
    · rename_i htarget
      rw [htarget, Target.client.injEq]
      constructor
      · nofun
      · intro heq
        exact absurd heq.symm hj
    · rfl
  · rw [hrouter, Router.forget, Table.find?_erase, if_neg hj]

/-! ## One act -/

/-- A screen that outlives a sweep has a client that does. -/
theorem screens_sweepAll {r : Registry} {l : Layout} {timeouts : SweepTimeouts} {retain : Uuid → Bool}
    {now : Time} (h : (sweepAll r l timeouts now retain).2.2.screens.contains id = true) :
    l.screens.contains id = true ∧
      (r.contains id = true → (r.sweep now timeouts retain).2.contains id = true) := by
  unfold sweepAll at h
  dsimp only at h
  split at h
  · rename_i hnobody
    refine ⟨h, fun hknown => Registry.contains_sweep hknown ?_⟩
    rw [List.isEmpty_iff.1 hnobody]
    nofun
  · rw [Layout.prune, Table.contains, Table.find?_filter, Option.isSome_filter, Option.any_eq_true] at h
    obtain ⟨region, hregion, hknown⟩ := h
    exact ⟨Option.isSome_iff_exists.2 ⟨region, hregion⟩, fun _ => hknown⟩

theorem keeps_act (ha : a.drops = false) (d : Desk) : d.registry.Keeps (d.act a).registry := by
  intro id hknown
  have hsame : ∀ {r : Registry}, r.standing? id = d.registry.standing? id → r.contains id = true :=
    fun h => (Registry.contains_of_standing? h).trans hknown
  cases a with
  | forget | sweep | maintain => cases ha
  | hello h peer now session pin =>
    rcases act_hello d h peer now session pin with heq | ⟨-, heq⟩ <;> rw [heq]
    · exact hknown
    · exact Admission.keeps_welcome _ _ h now session pin id hknown
  | submit session answer peer now =>
    rcases act_submit d session answer peer now with heq | ⟨-, heq⟩ <;> rw [heq]
    · exact hknown
    · exact Admission.keeps_judge _ _ session answer peer now id hknown
  | disconnect j now => exact Admission.keeps_disconnect _ _ j now id hknown
  | probe settings now =>
    rcases Registry.standing?_probeRound ProbeRound.throughQueue d.probes d.registry settings now id with
      h | ⟨-, hgone⟩
    · exact hsame h
    · exact Registry.contains_of_phase? hgone
  | reply j number now => exact hsame (standing?_reply ..)
  | flush => exact hsame (Registry.standing?_flush ..)
  | arrange forms =>
    rw [act, (d.updateLayout_frame forms).2]
    exact hknown
  | stage form =>
    rw [act, (d.updateNetwork_frame form).2]
    exact hknown
  | abandon | purge | share | point | focus | collect | read | transmit | disk => exact hknown

/-- Only clients that are known are given screens. -/
theorem screens_act (h : (d.act a).layout.screens.contains id = true) :
    d.layout.screens.contains id = true ∨ d.registry.contains id = true := by
  cases a with
  | forget text =>
    rw [act] at h
    cases hread : readClientId text with
    | error bad =>
      rw [forgetClient_of_error hread] at h
      exact .inl h
    | ok j =>
      rcases forgetClient_writes hread d with ⟨-, hw⟩ | hw
      · rw [hw] at h
        exact .inl h
      · rw [hw, persist, configure_layout, Layout.remove, Table.contains, Table.find?_erase] at h
        split at h
        · cases h
        · exact .inl h
  | sweep timeouts retain now => exact .inl (screens_sweepAll h).1
  | maintain now => exact .inl (screens_sweepAll h).1
  | arrange forms =>
    rw [act] at h
    rcases d.updateLayout_writes forms with hw | ⟨candidate, layout, -, hreplace, hw⟩
    · rw [hw] at h
      exact .inl h
    · rw [hw, persist, configure_layout] at h
      exact .inr (Layout.known_of_replace hreplace h)
  | stage form =>
    rw [act] at h
    rcases d.updateNetwork_writes form with hw | ⟨settings, network, -, -, hw⟩
    · rw [hw] at h
      exact .inl h
    · rw [hw, configure_layout] at h
      exact .inl h
  | reply j number now =>
    rw [act, reply] at h
    split at h <;> exact .inl h
  | _ => exact .inl h

/-- Who is not known any more has neither a screen nor trust. -/
theorem gone_act (ha : a.isWhole = true) (hknown : d.registry.contains id = true)
    (hgone : (d.act a).registry.contains id = false) :
    (d.act a).layout.screens.contains id = false ∧ (d.act a).admission.isTrusted id = false := by
  have hdrops : a.drops = true := by
    by_contra hkeeps
    cases hgone.symm.trans (keeps_act (Bool.eq_false_iff.2 hkeeps) d id hknown)
  cases a with
  | forget text =>
    cases hread : readClientId text with
    | error bad =>
      rw [act, forgetClient_of_error hread, hknown] at hgone
      cases hgone
    | ok j =>
      obtain ⟨c, hc⟩ := Registry.contains_iff.1 hknown
      have hid : id = j := by
        by_contra hne
        have hfound := find?_forgetClient hread d id
        rw [if_neg hne, hc] at hfound
        cases hgone.symm.trans (Registry.contains_iff.2 ⟨c, hfound⟩)
      subst hid
      have hlacks := lacks_forgotten hread hknown
      exact ⟨Option.isSome_eq_false_iff.2 (Option.isNone_iff_eq_none.2 hlacks.screens), hlacks.trusted⟩
  | maintain now =>
    constructor
    · by_contra hscreen
      have hstays := (screens_sweepAll (Bool.not_eq_false _ ▸ hscreen)).2 hknown
      cases hgone.symm.trans hstays
    · by_contra htrusted
      -- A sweep removes nobody who is trusted.
      rcases (isTrusted_act ..).1 (Bool.not_eq_false _ ▸ htrusted) with hc | ⟨hbefore, -⟩
      · cases hc
      · have hin : id ∈ (d.maintain now).1.removed := by
          by_contra hout
          cases hgone.symm.trans (Registry.contains_sweep hknown hout)
        obtain ⟨c, -, hretain, -⟩ := Registry.mem_removed_iff.1 hin
        cases hbefore.symm.trans hretain
  | sweep => cases ha
  | _ => cases hdrops

theorem referenced_act (h : d.Referenced) (ha : a.isWhole = true) : (d.act a).Referenced := by
  constructor
  · intro id hscreen
    by_contra hgone
    have hknown : d.registry.contains id = true := (screens_act hscreen).elim (h.screens id) fun hk => hk
    have hnone := (gone_act ha hknown (Bool.eq_false_iff.2 hgone)).1
    rw [hscreen] at hnone
    cases hnone
  · intro id htrusted
    rcases (isTrusted_act ..).1 htrusted with hc | ⟨hbefore, -⟩
    · exact Registry.contains_of_phase? (phase?_of_completes hc)
    · by_contra hgone
      have hnone := (gone_act ha (h.trusted id hbefore) (Bool.eq_false_iff.2 hgone)).2
      rw [htrusted] at hnone
      cases hnone

theorem referenced_after (h : d.Referenced) (hpast : ∀ a ∈ past, a.isWhole = true) :
    (d.after past).Referenced := by
  induction past with
  | nil => exact h
  | cons a past ih =>
    obtain ⟨ha, hpast⟩ := List.forall_mem_cons.1 hpast
    exact referenced_act (ih hpast) ha

/-! ## Every run -/

theorem contains_knownClients {clients : List KnownClient} {c : KnownClient} (hc : c ∈ clients) (now : Time) :
    (knownClients clients now).contains c.id = true := by
  have hall : ∀ (clients : List KnownClient) (r : Registry), c ∈ clients ∨ r.contains c.id = true →
      (clients.foldl (fun r c => (r.register? c.id c.name now).getD r) r).contains c.id = true := by
    intro clients
    induction clients with
    | nil => exact fun r h => h.resolve_left List.not_mem_nil
    | cons first rest ih =>
      intro r h
      apply ih
      rcases h with h | h
      · rcases List.mem_cons.1 h with rfl | h
        · exact .inr (r.contains_register ..)
        · exact .inl h
      · exact .inr (r.keeps_register _ _ _ _ h)
  exact hall clients .empty (.inl hc)

theorem known_of_storedLayout {s : LayoutSection} {known : Uuid → Bool}
    (h : (storedLayout s known).screens.contains id = true) : known id = true := by
  unfold storedLayout at h
  dsimp only at h
  split at h
  · rename_i layout hreplace
    exact Layout.known_of_replace hreplace h
  · cases h

theorem referenced_start (h : start config file capacity opening = .ok d) : d.Referenced := by
  obtain ⟨-, -, -, htrust⟩ := start_admission h
  unfold start at h
  split at h <;> cases h
  constructor
  · exact fun id => known_of_storedLayout
  · intro id htrusted
    obtain ⟨c, hc, -, rfl⟩ := (htrust id).1 htrusted
    exact contains_knownClients hc opening

theorem Referenced.verify_eq (h : d.Referenced) : d.verify = .ok () := by
  have hnone : d.layout.orphans d.registry.contains = [] := by
    unfold Layout.orphans
    rw [List.filter_eq_nil_iff]
    intro id hid
    simp [h.screens id (Table.mem_keys_iff.1 hid)]
  rw [verify, hnone]

/-- After every run, screens and trust are those of clients that are known, so the arrangement can always be
shown; and of a known client that is forgotten nothing is left, while all there is about the others stays. -/
theorem no_dangling_references (h : start config file capacity opening = .ok d)
    (hpast : ∀ a ∈ past, a.isWhole = true) :
    let d := d.after past
    (∀ p ∈ d.layout.placements, d.registry.contains p.1 = true) ∧
    (∀ id ∈ d.admission.trustedClients, d.registry.contains id = true) ∧
    d.verify = .ok () ∧ d.getLayout = .ok (d.layout.placements.map ScreenForm.ofPlacement) ∧
    ∀ text id, readClientId text = .ok id → d.registry.contains id = true →
      (d.forgetClient text).2.Lacks id ∧ ∀ j, j ≠ id → AgreeOn d (d.forgetClient text).2 j := by
  have href := referenced_after (referenced_start h) hpast
  refine ⟨?_, ?_, href.verify_eq, ?_, ?_⟩
  · intro p hp
    exact href.screens p.1 (Table.contains_iff.2 ⟨p.2, hp⟩)
  · intro id hid
    exact href.trusted id (Table.mem_keys_iff.1 hid)
  · rw [getLayout, href.verify_eq]
  · intro text id hread hknown
    exact ⟨lacks_forgotten hread hknown, fun j => agreeOn_forgotten hread hknown⟩

/-- Two clients, the one to the left trusted. -/
def besideEachOther : Config :=
  { layout := { clients := [(.ofNat 1, ⟨-1280, 0, 1280, 1024⟩), (.ofNat 2, ⟨1920, 0, 1280, 1024⟩)] }
    clients := [⟨.ofNat 1, "left", true⟩, ⟨.ofNat 2, "right", false⟩] }

/-- The left one says hello and is sent the pointer, and the right one says hello; the latest act comes
first. -/
def bothArrive : List Act :=
  [.hello ⟨.ofNat 2, Hello.spokenVersion, "right"⟩ .anyV4 3 (.ofNat 9) default,
    .point (-10) 10 2,
    .share true,
    .hello ⟨.ofNat 1, Hello.spokenVersion, "left"⟩ .anyV4 1 (.ofNat 8) default]

theorem left_one_forgotten : ∃ d, start besideEachOther none 8 0 = .ok d ∧
    (∀ a ∈ bothArrive, a.isWhole = true) ∧
    ((d.after bothArrive).router.target, (d.after bothArrive).admission.trustedClients,
      (d.after bothArrive).layout.screens.keys, (d.after bothArrive).admission.sessions.size) =
        (.client (.ofNat 1), [.ofNat 1], [.ofNat 1, .ofNat 2], 1) ∧
    (d.after bothArrive).verify = .ok () ∧
    ((d.after bothArrive).forgetClient "00000000-0000-0000-0000-000000000001").2.Lacks (.ofNat 1) ∧
    AgreeOn (d.after bothArrive)
      ((d.after bothArrive).forgetClient "00000000-0000-0000-0000-000000000001").2 (.ofNat 2) := by
  have hread : readClientId "00000000-0000-0000-0000-000000000001" = .ok (.ofNat 1) := by
    decide +kernel
  have hwhole : ∀ a ∈ bothArrive, a.isWhole = true := by
    simp [bothArrive, Act.isWhole]
  have hrun : (start besideEachOther none 8 0).toOption.map (fun d =>
      ((d.after bothArrive).registry.contains (.ofNat 1),
        ((d.after bothArrive).router.target, (d.after bothArrive).admission.trustedClients,
          (d.after bothArrive).layout.screens.keys, (d.after bothArrive).admission.sessions.size))) =
        some (true, .client (.ofNat 1), [.ofNat 1], [.ofNat 1, .ofNat 2], 1) := by
    decide +kernel
  obtain ⟨d, hd, hrun⟩ := exists_start hrun
  obtain ⟨hknown, hbefore⟩ := Prod.mk.inj hrun
  obtain ⟨-, -, hverify, -, hforget⟩ := no_dangling_references hd hwhole
  obtain ⟨hlacks, hothers⟩ := hforget _ _ hread hknown
  exact ⟨d, hd, hwhole, hbefore, hverify, hlacks, hothers _ (by decide)⟩

end Desk

end SharedDesk
