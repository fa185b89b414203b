import SharedDesk.Proofs.Admission.Standing
import SharedDesk.Proofs.Desk.Lockout
import SharedDesk.Proofs.Desk.Start
/-!
# One session for each pairing client

`one_session_each`: as long as the parts of maintenance come together, every pending session belongs to a
pairing client, every pairing client has one, and nobody is left between two phases of a hello. A session
and the pairing it belongs to begin at the same time (`Admission.Stands`), and may last equally long, so a
sweep ends the pairing of every session that is purged with it.
-/

namespace SharedDesk

namespace Act

/-- A hello brings an identifier that no pending session has. -/
def Fresh (d : Desk) : Act → Prop
  | .hello _ _ _ session _ => d.admission.sessions.find? session = none
  | _ => True

/-- An act in the ordinary course of a desk: maintenance is not taken apart, a new session gets a new
identifier, and every lockout has an end that the clock can show. -/
def Ordinary (d : Desk) (a : Act) : Prop := a.isWhole = true ∧ a.Fresh d ∧ a.Datable d

end Act

namespace Desk

open Admission (Stands)

variable {d : Desk} {a : Act} {id : Uuid} {past : List Act}

/-! ## Maintenance -/

/-- A session that is purged for its age belongs to a client that the sweep times out. -/
theorem stands_maintain (hexpiry : d.liveness.pairingTimeout = d.admission.policy.pinExpiry) (now : Time)
    (h : Stands d.admission.sessions d.registry id) :
    Stands (d.maintain now).2.admission.sessions (d.maintain now).2.registry id := by
  have hsessions := (Admission.abandonAll_spec (d.maintain now).1.timedOut (d.admission.purge now).2).1
  have hphase : (d.maintain now).2.registry.phase? id ∈ [none, some .disconnected, d.registry.phase? id] :=
    Registry.phase?_sweep ..
  cases h with
  | @pairing sid s hs hc hstanding honly =>
    have honly' : ∀ sid' s', (d.maintain now).2.admission.sessions.find? sid' = some s' →
        s'.client = id → sid' = sid := by
      intro sid' s' hs' hc'
      exact honly sid' s' (Admission.find?_purge_iff.1 ((hsessions sid' s').1 hs').1).1 hc'
    rcases Registry.sweep_of_pairing hstanding now d.liveness.sweepTimeouts
        (d.admission.purge now).2.isTrusted with ⟨-, hout⟩ | ⟨hearly, hin, hkept⟩
    · refine .apart ?_ ?_
      · have hgone : (d.maintain now).2.registry.phase? id ∈ [none, some .disconnected] :=
          Registry.phase?_sweep_of_timedOut hout
        simp only [List.mem_cons, List.not_mem_nil, or_false] at hgone ⊢
        rcases hgone with hgone | hgone <;> simp [hgone]
      · intro sid' s' hs' hc'
        exact ((hsessions sid' s').1 hs').2 (hc' ▸ hout)
    · -- Younger than a pairing may get, the session is younger than its PIN may get.
      have hyoung : Time.elapsed now s.openedAt ≤ d.admission.policy.pinExpiry := by
        rw [← hexpiry]
        exact Nat.le_of_lt hearly
      exact .pairing ((hsessions sid s).2 ⟨Admission.find?_purge_iff.2 ⟨hs, hyoung⟩, hc ▸ hin⟩) hc hkept
        honly'
  | apart hbefore hnone =>
    refine .apart ?_ ?_
    · simp only [List.mem_cons, List.not_mem_nil, or_false] at hphase hbefore ⊢
      rcases hphase with hphase | hphase | hphase <;> simp [hphase, hbefore]
    · intro sid s hs
      exact hnone sid s (Admission.find?_purge_iff.1 ((hsessions sid s).1 hs).1).1

/-! ## Every act -/

theorem stands_act (hexpiry : d.liveness.pairingTimeout = d.admission.policy.pinExpiry)
    (h : ∀ id, Stands d.admission.sessions d.registry id) (ha : a.Ordinary d) (id : Uuid) :
    Stands (d.act a).admission.sessions (d.act a).registry id := by
  obtain ⟨hwhole, hfresh, hdatable⟩ := ha
  cases a with
  | hello hello peer now session pin =>
    rcases act_hello d hello peer now session pin with heq | ⟨-, heq⟩ <;> rw [heq]
    · exact h id
    · exact Admission.stands_welcome h hello hfresh pin id
  | submit session answer peer now =>
    rcases act_submit d session answer peer now with heq | ⟨hl, heq⟩ <;> rw [heq]
    · exact h id
    · refine Admission.stands_judge h session answer peer now ?_ id
      rw [← Admission.submit_of_free hl, ne_eq, Admission.submit_eq_clockOverflow_iff]
      rintro ⟨hlast, hnever⟩
      have hdate := hdatable hlast
      rw [hnever] at hdate
      cases hdate
  | disconnect j now => exact Admission.stands_disconnect h j now id
  | forget text =>
    rw [act]
    cases hread : readClientId text with
    | error bad =>
      rw [forgetClient_of_error hread]
      exact h id
    | ok j =>
      rw [forgetClient_admission hread]
      apply Admission.stands_dropped h j
      · simp [Registry.phase?, find?_forgetClient hread]
      · intro k hk
        simp [Registry.standing?, find?_forgetClient hread, hk]
  | maintain now => exact stands_maintain hexpiry now (h id)
  | probe settings now =>
    exact (h id).of_registry (Registry.standing?_probeRound ProbeRound.throughQueue d.probes ..)
  | reply j number now =>
    rw [admission_of_other rfl]
    exact (h id).of_registry (.inl (standing?_reply ..))
  | arrange forms =>
    rw [act, (d.updateLayout_frame forms).1, (d.updateLayout_frame forms).2]
    exact h id
  | stage form =>
    rw [act, (d.updateNetwork_frame form).1, (d.updateNetwork_frame form).2]
    exact h id
  | flush => exact (h id).of_registry (.inl (Registry.standing?_flush ..))
  | abandon | purge | sweep => cases hwhole
  | share | point | focus | collect | read | transmit | disk => exact h id

theorem stands_after (hexpiry : d.liveness.pairingTimeout = d.admission.policy.pinExpiry)
    (h : ∀ id, Stands d.admission.sessions d.registry id)
    (hpast : Throughout Act.Ordinary d past) (id : Uuid) :
    Stands (d.after past).admission.sessions (d.after past).registry id := by
  induction past generalizing id with
  | nil => exact h id
  | cons a past ih =>
    obtain ⟨ha, hpast⟩ := hpast
    refine stands_act ?_ (ih hpast) ha id
    rw [liveness_after, policy_after, hexpiry]

theorem stands_start {config : Config} {file : Option ConfigFile} {capacity : Nat} {opening : Time}
    (h : start config file capacity opening = .ok d) (id : Uuid) :
    Stands d.admission.sessions d.registry id := by
  obtain ⟨-, hsessions, -, -⟩ := start_admission h
  refine .apart ?_ ?_
  · have hphase := start_phase? h id
    simp only [List.mem_cons, List.not_mem_nil, or_false] at hphase ⊢
    rcases hphase with hphase | hphase <;> simp [hphase]
  · intro sid s hs
    rw [hsessions, Table.find?_empty] at hs
    cases hs

/-- After every run in the ordinary course, sessions and pairing clients belong together one to one. -/
theorem one_session_each {config : Config} {file : Option ConfigFile} {capacity : Nat} {opening : Time}
    (h : start config file capacity opening = .ok d)
    (hpast : Throughout Act.Ordinary d past) :
    (∀ sid s, (d.after past).admission.sessions.find? sid = some s →
      (d.after past).registry.phase? s.client = some .pairing) ∧
    (∀ id, (d.after past).registry.phase? id = some .pairing →
      ∃! sid, ∃ s, (d.after past).admission.sessions.find? sid = some s ∧ s.client = id) ∧
    (∀ id, (d.after past).registry.phase? id ≠ some .connecting ∧
      (d.after past).registry.phase? id ≠ some .connected) ∧
    (d.after past).admission.sessions.size =
      (d.after past).registry.clients.rows.countP fun row => row.2.phase = .pairing := by
  have hstands := stands_after (start_liveness h) (stands_start h) hpast
  refine ⟨?_, ?_, ?_, Admission.size_eq_countP hstands⟩
  · intro sid s hs
    exact (hstands s.client).phase?_of_session hs rfl
  · intro id hphase
    cases hstands id with
    | @pairing sid s hs hc _ honly =>
      refine ⟨sid, ⟨s, hs, hc⟩, ?_⟩
      rintro sid' ⟨s', hs', hc'⟩
      exact honly sid' s' hs' hc'
    | apart hapart _ => simp [hphase] at hapart
  · intro id
    exact (hstands id).settled

/-- An early guest and a late one say hello, the early one answers wrong, and a minute after its hello
maintenance is due; the latest act comes first. -/
def lastMinute : List Act :=
  [.maintain (Duration.ofSeconds 60),
    .submit (.ofNat 8) "" .anyV4 (Duration.ofSeconds 55),
    .hello ⟨.ofNat 2, Hello.spokenVersion, "late"⟩ .anyV4 (Duration.ofSeconds 50) (.ofNat 9) default,
    .hello ⟨.ofNat 1, Hello.spokenVersion, "early"⟩ .anyV4 0 (.ofNat 8) default]

/-- The early guest's PIN is just good enough not to be purged, and its pairing ends with its session. -/
theorem last_minute_ends_both : ∃ d, start {} none 8 0 = .ok d ∧ Throughout Act.Ordinary d lastMinute ∧
    (d.after lastMinute.tail).admission.sessions.size = 2 ∧
    ((d.after lastMinute).registry.phase? (.ofNat 1), (d.after lastMinute).registry.phase? (.ofNat 2),
      (d.after lastMinute).admission.sessions.size) = (some .disconnected, some .pairing, 1) ∧
    (d.after lastMinute).admission.sessions.size =
      (d.after lastMinute).registry.clients.rows.countP fun row => row.2.phase = .pairing := by
  have hrun : (start {} none 8 0).toOption.map (fun d =>
      ((d.admission.sessions.find? (.ofNat 8),
        (d.after (lastMinute.drop 3)).admission.sessions.find? (.ofNat 9)),
        (d.after lastMinute.tail).admission.sessions.size,
        ((d.after lastMinute).registry.phase? (.ofNat 1), (d.after lastMinute).registry.phase? (.ofNat 2),
          (d.after lastMinute).admission.sessions.size))) =
        some ((none, none), 2, some .disconnected, some .pairing, 1) := by
    decide +kernel
  obtain ⟨d, hd, hrun⟩ := exists_start hrun
  obtain ⟨hfresh, hsizes⟩ := Prod.mk.inj hrun
  obtain ⟨hearly, hlate⟩ := Prod.mk.inj hfresh
  obtain ⟨htwo, hrest⟩ := Prod.mk.inj hsizes
  have hpolicy : d.admission.policy = PairingSection.policy {} := (start_admission hd).1
  have hpast : Throughout Act.Ordinary d lastMinute := by
    refine ⟨⟨rfl, trivial, trivial⟩, ⟨rfl, trivial, fun _ => ?_⟩, ⟨rfl, hlate, trivial⟩,
      ⟨rfl, hearly, trivial⟩, trivial⟩
    rw [policy_after, hpolicy]
    decide
  obtain ⟨-, -, -, hsize⟩ := one_session_each hd hpast
  exact ⟨d, hd, hpast, htwo, hrest, hsize⟩

end Desk

end SharedDesk
