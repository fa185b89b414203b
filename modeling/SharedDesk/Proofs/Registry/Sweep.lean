import SharedDesk.Proofs.Registry.Run
/-!
# What a sweep does, and what it reports

A sweep ends the handshakes that take too long, and then drops the clients that have been gone for too long. From what
this can mean for one client (`Fate`) it follows what a report says (`sweep_exact`), and which handshakes are over
(`handshakes_ended`).
-/

namespace SharedDesk

theorem Time.elapsed_mono {now now' : Time} (hle : now ≤ now') (since : Time) :
    Time.elapsed now since ≤ Time.elapsed now' since :=
  Nat.sub_le_sub_right hle since

namespace Client

variable {c : Client} {now now' : Time} {timeouts : SweepTimeouts}

/-- The record of a client that has just been disconnected. -/
theorem enter_disconnected (h : c.phase ≠ .disconnected) (now : Time) : c.enter .disconnected now =
    { c with
      phase := .disconnected, changedAt := now, probes := { c.probes with outstanding := none, misses := 0 } } := by
  simp [enter, endsProbes, Ne.symm h, ProbeTracker.reset]

theorem not_timesOut_of_disconnected (h : c.phase = .disconnected) : ¬ c.TimesOut now timeouts :=
  fun hout => hout.phase_ne.1 h

theorem TimesOut.mono (h : c.TimesOut now timeouts) (hle : now ≤ now') : c.TimesOut now' timeouts :=
  ⟨⟨h.1.1, Nat.le_trans h.1.2 (Time.elapsed_mono hle c.changedAt)⟩, h.2⟩

theorem isAbsent_mono (h : c.isAbsent now timeouts = true) (hle : now ≤ now') : c.isAbsent now' timeouts = true := by
  rw [isAbsent_iff] at h ⊢
  exact ⟨h.1, Nat.le_trans h.2 (Time.elapsed_mono hle c.changedAt)⟩

end Client

namespace Registry

open Ranked (rank)

variable {r : Registry} {id : Uuid} {c c' : Client} {now now' : Time} {timeouts : SweepTimeouts}
  {retain : Uuid → Bool}

/-! ## The report -/

theorem ascending_timedOut (r : Registry) (now : Time) (timeouts : SweepTimeouts) (retain : Uuid → Bool) :
    (r.sweep now timeouts retain).1.timedOut.Pairwise fun a b => rank a < rank b :=
  List.pairwise_map.2 (r.clients.ascending.filter _)

theorem ascending_removed (r : Registry) (now : Time) (timeouts : SweepTimeouts) (retain : Uuid → Bool) :
    (r.sweep now timeouts retain).1.removed.Pairwise fun a b => rank a < rank b :=
  List.pairwise_map.2 ((Table.ascending _).filter _)

/-- What is reported at one time is also reported at every later one. -/
theorem sweep_mono (hle : now ≤ now') :
    (r.sweep now timeouts retain).1.timedOut ⊆ (r.sweep now' timeouts retain).1.timedOut ∧
      (r.sweep now timeouts retain).1.removed ⊆ (r.sweep now' timeouts retain).1.removed := by
  constructor
  · intro id hid
    obtain ⟨c, hc, hout⟩ := (mem_timedOut_iff ..).1 hid
    exact (mem_timedOut_iff ..).2 ⟨c, hc, hout.mono hle⟩
  · intro id hid
    obtain ⟨c, hc, hfree, hgo⟩ := mem_removed_iff.1 hid
    refine mem_removed_iff.2 ⟨c, hc, hfree, ?_⟩
    rcases hgo with habsent | ⟨hout, hzero⟩
    · exact .inl (Client.isAbsent_mono habsent hle)
    · exact .inr ⟨hout.mono hle, hzero⟩

/-! ## The registry afterwards -/

theorem find?_sweep_of_unreported (ht : id ∉ (r.sweep now timeouts retain).1.timedOut)
    (hr : id ∉ (r.sweep now timeouts retain).1.removed) :
    (r.sweep now timeouts retain).2.find? id = r.find? id := by
  cases hc : r.find? id with
  | none => exact (sweep_of_unknown hc now timeouts retain).2.2
  | some c =>
    cases fate_sweep hc now timeouts retain with
    | stays _ _ _ _ hsame => exact hsame
    | ends _ _ hout => exact absurd hout ht
    | goes _ _ _ hgone | endsAndGoes _ _ _ _ hgone => exact absurd hgone hr

/-- Every record that a sweep leaves was there before and not to be touched, or is that of a client that has just been
disconnected. -/
theorem find?_before_sweep (h : (r.sweep now timeouts retain).2.find? id = some c') :
    (r.find? id = some c' ∧ ¬ c'.TimesOut now timeouts ∧ (c'.isAbsent now timeouts = true → retain id = true)) ∨
    ∃ c : Client, c.TimesOut now timeouts ∧ (timeouts.absence = 0 → retain id = true) ∧
      c' = c.enter .disconnected now := by
  cases hc : r.find? id with
  | none => cases h.symm.trans (sweep_of_unknown hc now timeouts retain).2.2
  | some c =>
    cases fate_sweep hc now timeouts retain with
    | stays hnot hkept _ _ hrecord =>
      obtain rfl := Option.some.inj (h.symm.trans hrecord)
      exact .inl ⟨rfl, hnot, hkept⟩
    | ends hout hkept _ _ hrecord => exact .inr ⟨c, hout, hkept, Option.some.inj (h.symm.trans hrecord)⟩
    | goes _ _ _ _ hrecord | endsAndGoes _ _ _ _ _ hrecord => cases h.symm.trans hrecord

/-- A sweep leaves nothing to do for another one at the same time. -/
theorem settled_sweep (h : (r.sweep now timeouts retain).2.find? id = some c') :
    ¬ c'.TimesOut now timeouts ∧ (c'.isAbsent now timeouts = true → retain id = true) := by
  rcases find?_before_sweep h with ⟨-, hnot, hkept⟩ | ⟨c, hout, hkept, rfl⟩
  · exact ⟨hnot, hkept⟩
  · exact ⟨Client.not_timesOut_of_disconnected rfl, fun habsent => hkept (hout.isAbsent_iff.1 habsent)⟩

theorem sweep_again (r : Registry) (now : Time) (timeouts : SweepTimeouts) (retain : Uuid → Bool) :
    (r.sweep now timeouts retain).2.sweep now timeouts retain = (⟨[], []⟩, (r.sweep now timeouts retain).2) := by
  generalize hs : (r.sweep now timeouts retain).2 = s
  have hout : ∀ id, id ∉ (s.sweep now timeouts retain).1.timedOut := by
    intro id hid
    obtain ⟨c, hc, hout⟩ := (mem_timedOut_iff ..).1 hid
    rw [← hs] at hc
    exact (settled_sweep hc).1 hout
  have hgone : ∀ id, id ∉ (s.sweep now timeouts retain).1.removed := by
    intro id hid
    obtain ⟨c, hc, hfree, hgo⟩ := mem_removed_iff.1 hid
    rw [← hs] at hc
    rcases hgo with habsent | ⟨hout, -⟩
    · cases hfree.symm.trans ((settled_sweep hc).2 habsent)
    · exact (settled_sweep hc).1 hout
  have hreport : (s.sweep now timeouts retain).1 = ⟨[], []⟩ :=
    calc (s.sweep now timeouts retain).1
        = ⟨(s.sweep now timeouts retain).1.timedOut, (s.sweep now timeouts retain).1.removed⟩ := rfl
      _ = ⟨[], []⟩ := by
        rw [List.eq_nil_iff_forall_not_mem.2 hout, List.eq_nil_iff_forall_not_mem.2 hgone]
  have hsame : (s.sweep now timeouts retain).2 = s :=
    ext_find? fun id => find?_sweep_of_unreported (hout id) (hgone id)
  exact Prod.ext hreport hsame

/-- The clients that are still there in another phase, and those that went from another phase than `disconnected`. -/
theorem mem_timedOut_iff_moved : id ∈ (r.sweep now timeouts retain).1.timedOut ↔
    (r.sweep now timeouts retain).2.phase? id ≠ r.phase? id ∧ r.phase? id ≠ some .disconnected := by
  cases hc : r.find? id with
  | none =>
    obtain ⟨hnot, -, hrecord⟩ := sweep_of_unknown hc now timeouts retain
    simp [hnot, phase?, hc, hrecord]
  | some c =>
    cases fate_sweep hc now timeouts retain with
    | stays _ _ hnot _ hrecord => simp [hnot, phase?, hc, hrecord]
    | ends hout _ ht _ hrecord => simp [ht, phase?, hc, hrecord, hout.phase_ne.1, Ne.symm hout.phase_ne.1]
    | goes habsent _ hnot _ hrecord => simp [hnot, phase?, hc, (Client.isAbsent_iff.1 habsent).1]
    | endsAndGoes hout _ _ ht _ hrecord => simp [ht, phase?, hc, hrecord, hout.phase_ne.1]

theorem mem_removed_iff_vanished : id ∈ (r.sweep now timeouts retain).1.removed ↔
    r.contains id = true ∧ (r.sweep now timeouts retain).2.contains id = false := by
  have hknown : ∀ s : Registry, s.contains id = (s.find? id).isSome := fun _ => rfl
  rw [hknown, hknown]
  cases hc : r.find? id with
  | none =>
    obtain ⟨-, hnot, -⟩ := sweep_of_unknown hc now timeouts retain
    simp [hnot]
  | some c =>
    cases fate_sweep hc now timeouts retain with
    | stays _ _ _ hnot hrecord | ends _ _ _ hnot hrecord => simp [hnot, hrecord]
    | goes _ _ _ hr hrecord | endsAndGoes _ _ _ _ hr hrecord => simp [hr, hrecord]

/-! ## What holds of every sweep -/

/-- A report lists, in ascending order, exactly the clients that the sweep took to another phase, and exactly those
that it dropped. The first come from a handshake; they are disconnected as of now, without misses and without a probe
on its way, and in nothing else different, unless they were dropped at once, which takes an absence timeout of zero.
Nobody is dropped who was active or is to be retained. All records that are not reported stay as they are, another
sweep at the same time finds nothing to do, and one at a later time would have reported the same clients at least. -/
theorem sweep_exact (r : Registry) (now : Time) (timeouts : SweepTimeouts) (retain : Uuid → Bool) :
    let report := (r.sweep now timeouts retain).1
    let swept := (r.sweep now timeouts retain).2
    report.timedOut.Pairwise (fun a b => rank a < rank b) ∧
    report.removed.Pairwise (fun a b => rank a < rank b) ∧
    (∀ id, id ∈ report.timedOut ↔ swept.phase? id ≠ r.phase? id ∧ r.phase? id ≠ some .disconnected) ∧
    (∀ id, id ∈ report.removed ↔ r.contains id = true ∧ swept.contains id = false) ∧
    (∀ id ∈ report.timedOut, ∃ c, r.find? id = some c ∧ c.phase.isHandshaking = true ∧
      (id ∉ report.removed → swept.find? id = some { c with
        phase := .disconnected, changedAt := now, probes := { c.probes with outstanding := none, misses := 0 } })) ∧
    (∀ id ∈ report.timedOut, id ∈ report.removed → timeouts.absence = 0) ∧
    (∀ id ∈ report.removed, r.phase? id ≠ some .active ∧ retain id = false) ∧
    (∀ id, id ∉ report.timedOut → id ∉ report.removed → swept.find? id = r.find? id) ∧
    swept.sweep now timeouts retain = (⟨[], []⟩, swept) ∧
    (∀ later, now ≤ later → report.timedOut ⊆ (r.sweep later timeouts retain).1.timedOut ∧
      report.removed ⊆ (r.sweep later timeouts retain).1.removed) := by
  refine ⟨ascending_timedOut .., ascending_removed .., fun _ => mem_timedOut_iff_moved,
    fun _ => mem_removed_iff_vanished, fun id hid => ?_, fun id hid hr => ?_, fun id hr => ?_,
    fun _ => find?_sweep_of_unreported, sweep_again .., fun _ => sweep_mono⟩
  · obtain ⟨c, hc, hout⟩ := (mem_timedOut_iff ..).1 hid
    refine ⟨c, hc, hout.1.1, fun hstays => ?_⟩
    cases fate_sweep hc now timeouts retain with
    | ends _ _ _ _ hrecord => rw [hrecord, Client.enter_disconnected hout.phase_ne.1]
    | stays _ _ hnot | goes _ _ hnot => exact absurd hid hnot
    | endsAndGoes _ _ _ _ hr => exact absurd hr hstays
  · obtain ⟨c, hc, hout⟩ := (mem_timedOut_iff ..).1 hid
    obtain ⟨c', hc', -, habsent | ⟨-, hzero⟩⟩ := mem_removed_iff.1 hr
    · obtain rfl := Option.some.inj (hc.symm.trans hc')
      exact absurd (Client.isAbsent_iff.1 habsent).1 hout.phase_ne.1
    · exact hzero
  · obtain ⟨c, hc, hfree, hgo⟩ := mem_removed_iff.1 hr
    have hidle : c.phase ≠ .active := by
      rcases hgo with habsent | ⟨hout, -⟩
      · simp [(Client.isAbsent_iff.1 habsent).1]
      · exact hout.phase_ne.2
    refine ⟨fun hactive => ?_, hfree⟩
    obtain ⟨c', hc', hp⟩ := phase?_eq_some_iff.1 hactive
    obtain rfl := Option.some.inj (hc.symm.trans hc')
    exact hidle hp

/-- A client that is connecting, one that the settings name and one that is active; the latest operation comes
first. -/
def oneOfEach : List Operation :=
  [.signal (.ofNat 3) .pairingNotRequired 0, .signal (.ofNat 3) .helloAccepted 0, .greet (.ofNat 3) "laptop" 0,
    .register (.ofNat 2) "attic" 0, .greet (.ofNat 1) "guest" 0]

/-- Ten later the first is timed out and the second removed, the third stays, and a sweep at twenty would have reported
the first two as well. -/
theorem one_of_each_swept :
    let r := after oneOfEach
    let swept := r.sweep 10 ⟨10, 60, 5⟩ fun _ => false
    swept.1 = ⟨[.ofNat 1], [.ofNat 2]⟩ ∧
    (∃ c, swept.2.find? (.ofNat 1) = some c ∧ c.phase = .disconnected ∧ c.changedAt = 10) ∧
    swept.2.find? (.ofNat 3) = r.find? (.ofNat 3) ∧
    [.ofNat 1] ⊆ (r.sweep 20 ⟨10, 60, 5⟩ fun _ => false).1.timedOut ∧
    [.ofNat 2] ⊆ (r.sweep 20 ⟨10, 60, 5⟩ fun _ => false).1.removed := by
  have hreport : ((after oneOfEach).sweep 10 ⟨10, 60, 5⟩ fun _ => false).1 = ⟨[.ofNat 1], [.ofNat 2]⟩ := by
    decide +kernel
  obtain ⟨-, -, -, -, hended, -, -, hkept, -, hlater⟩ := sweep_exact (after oneOfEach) 10 ⟨10, 60, 5⟩ fun _ => false
  obtain ⟨htimedOut, hremoved⟩ := hlater 20 (by decide)
  rw [hreport] at hended hkept htimedOut hremoved
  obtain ⟨c, -, -, hrecord⟩ := hended (.ofNat 1) (by decide)
  exact ⟨hreport, ⟨_, hrecord (by decide), rfl, rfl⟩, hkept (.ofNat 3) (by decide) (by decide), htimedOut, hremoved⟩

/-! ## Handshakes that took too long -/

theorem ended_of_overdue (hc : r.find? id = some c) (hlate : c.IsOverdue now timeouts) (hp : c.phase ≠ .connected)
    (retain : Uuid → Bool) : id ∈ (r.sweep now timeouts retain).1.timedOut ∧
      ((r.sweep now timeouts retain).2.phase? id = some .disconnected ∨
        (timeouts.absence = 0 ∧ id ∈ (r.sweep now timeouts retain).1.removed)) := by
  have hout : c.TimesOut now timeouts := ⟨hlate, hp⟩
  cases fate_sweep hc now timeouts retain with
  | stays hnot => exact absurd hout hnot
  | goes habsent => exact absurd (Client.isAbsent_iff.1 habsent).1 hout.phase_ne.1
  | ends _ _ ht _ hrecord => exact ⟨ht, .inl (phase?_eq_some_iff.2 ⟨_, hrecord, rfl⟩)⟩
  | endsAndGoes _ hzero _ ht hr => exact ⟨ht, .inr ⟨hzero, hr⟩⟩

/-- Only a connected client can be late after a sweep, and it has been left as it was. -/
theorem connected_of_overdue (hc : (r.sweep now timeouts retain).2.find? id = some c)
    (hlate : c.IsOverdue now timeouts) : c.phase = .connected ∧ r.find? id = some c := by
  rcases find?_before_sweep hc with ⟨hbefore, hnot, -⟩ | ⟨b, -, -, rfl⟩
  · exact ⟨Decidable.byContradiction fun hp => hnot ⟨hlate, hp⟩, hbefore⟩
  · cases hlate.1

theorem sweep_of_connected (hc : r.find? id = some c) (hp : c.phase = .connected) (now : Time)
    (timeouts : SweepTimeouts) (retain : Uuid → Bool) : id ∉ (r.sweep now timeouts retain).1.timedOut ∧
      (r.sweep now timeouts retain).2.find? id = some c := by
  cases fate_sweep hc now timeouts retain with
  | stays _ _ hnot _ hrecord => exact ⟨hnot, hrecord⟩
  | ends hout | endsAndGoes hout => exact absurd hp hout.2
  | goes habsent => cases hp.symm.trans (Client.isAbsent_iff.1 habsent).1

/-- After a sweep nobody is connecting or pairing who has been for as long as that may take: whoever was is reported
as timed out, and is disconnected, or gone where nobody may be absent at all. A connected client stays as it is, for
however long. So all handshakes that took too long are over exactly when none of them was that of a connected
client. -/
theorem handshakes_ended (r : Registry) (now : Time) (timeouts : SweepTimeouts) (retain : Uuid → Bool) :
    let report := (r.sweep now timeouts retain).1
    let swept := (r.sweep now timeouts retain).2
    (∀ id c, r.find? id = some c → c.IsOverdue now timeouts → c.phase ≠ .connected → id ∈ report.timedOut ∧
      (swept.phase? id = some .disconnected ∨ (timeouts.absence = 0 ∧ id ∈ report.removed))) ∧
    (∀ id c, swept.find? id = some c → c.IsOverdue now timeouts → c.phase = .connected ∧ r.find? id = some c) ∧
    (∀ id c, r.find? id = some c → c.phase = .connected → id ∉ report.timedOut ∧ swept.find? id = some c) ∧
    ((∀ id c, swept.find? id = some c → ¬ c.IsOverdue now timeouts) ↔
      ∀ id c, r.find? id = some c → c.phase = .connected → Time.elapsed now c.changedAt < timeouts.handshake) := by
  refine ⟨fun _ _ hc hlate hp => ended_of_overdue hc hlate hp retain, fun _ _ => connected_of_overdue,
    fun _ _ hc hp => sweep_of_connected hc hp now timeouts retain, ?_⟩
  constructor
  · intro hnone id c hc hp
    have hnot := hnone id c (sweep_of_connected hc hp now timeouts retain).2
    rw [Client.IsOverdue, hp] at hnot
    exact Nat.not_le.1 fun hle => hnot ⟨rfl, hle⟩
  · intro hsoon id c hc hlate
    obtain ⟨hp, hbefore⟩ := connected_of_overdue hc hlate
    have hle := hlate.2
    rw [hp] at hle
    exact absurd (hsoon id c hbefore hp) (Nat.not_lt.2 hle)

/-- A guest that is shown its PIN, and a caller that says nothing after its first words; the latest operation comes
first. -/
def twoAtTheDoor : List Operation :=
  [.greet (.ofNat 2) "caller" 0, .signal (.ofNat 1) .pairingRequired 0, .signal (.ofNat 1) .helloAccepted 0,
    .greet (.ofNat 1) "guest" 0]

/-- At sixty a sweep ends both handshakes, and none is left that took too long. -/
theorem both_handshakes_ended :
    let swept := (after twoAtTheDoor).sweep 60 ⟨10, 60, 300⟩ fun _ => false
    (∀ id ∈ [Uuid.ofNat 1, .ofNat 2], id ∈ swept.1.timedOut ∧ swept.2.phase? id = some .disconnected) ∧
    ∀ id c, swept.2.find? id = some c → ¬ c.IsOverdue 60 ⟨10, 60, 300⟩ := by
  have hlate : ∀ id ∈ [Uuid.ofNat 1, .ofNat 2], ∃ c, (after twoAtTheDoor).find? id = some c ∧
      c.IsOverdue 60 ⟨10, 60, 300⟩ ∧ c.phase ≠ .connected := by
    have hboth : ∀ id ∈ [Uuid.ofNat 1, .ofNat 2], ((after twoAtTheDoor).find? id).any (fun c =>
        decide (c.IsOverdue 60 ⟨10, 60, 300⟩ ∧ c.phase ≠ .connected)) = true := by
      decide +kernel
    intro id hid
    simpa [Option.any_eq_true] using hboth id hid
  have hnone : ∀ row ∈ (after twoAtTheDoor).clients.rows, row.2.phase ≠ .connected := by
    decide +kernel
  obtain ⟨hended, -, -, hall⟩ := handshakes_ended (after twoAtTheDoor) 60 ⟨10, 60, 300⟩ fun _ => false
  refine ⟨fun id hid => ?_, hall.2 fun id c hc hp => absurd hp (hnone (id, c) (Table.find?_eq_some_iff.1 hc))⟩
  obtain ⟨c, hc, hoverdue, hp⟩ := hlate id hid
  obtain ⟨hout, hgone | ⟨hzero, -⟩⟩ := hended id c hc hoverdue hp
  · exact ⟨hout, hgone⟩
  · cases hzero

/-- A client whose hello was accepted, and nothing more; the latest operation comes first. -/
def halfwayIn : List Operation := [.signal (.ofNat 1) .helloAccepted 0, .greet (.ofNat 1) "guest" 0]

/-- When it has been connected for as long as a handshake may take, a sweep reports nobody and leaves it late. -/
theorem connected_outlives_deadline :
    let swept := (after halfwayIn).sweep 10 ⟨10, 60, 300⟩ fun _ => false
    swept.1 = ⟨[], []⟩ ∧
    ∃ c, swept.2.find? (.ofNat 1) = some c ∧ c.phase = .connected ∧ c.IsOverdue 10 ⟨10, 60, 300⟩ := by
  refine ⟨by decide +kernel, ?_⟩
  have hlate : (((after halfwayIn).sweep 10 ⟨10, 60, 300⟩ fun _ => false).2.find? (.ofNat 1)).any (fun c =>
      decide (c.phase = .connected ∧ c.IsOverdue 10 ⟨10, 60, 300⟩)) = true := by
    decide +kernel
  simpa [Option.any_eq_true] using hlate

end Registry

end SharedDesk
