import SharedDesk.Registry
import SharedDesk.Table.Lemmas
/-!
# What a registry answers after an operation

Look-up is the view of a registry. A hello and a legal signal store one record (`greet_eq`,
`signal_eq`), a sweep and a probe round change every record by itself; all that a sweep can mean for a
client, and what its report says of that, is the client's `Fate` (`fate_sweep`). Of the phases and of when
they were entered that means: telemetry, probes and answers to probes keep them, but for the disconnection
of a client that missed too many, and a sweep takes a client nowhere but to `disconnected` or out of
the registry.

A connected client cannot be timed out, however late it is (`Client.timeOut?_eq`): no move leads from
`connected` to `disconnected`.
-/

namespace SharedDesk

namespace Client

@[simp]
theorem enter_phase (c : Client) (p : Phase) (now : Time) : (c.enter p now).phase = p := rfl

/-- A pairing client that stays pairing is left as it is. -/
theorem enter_pairing {c : Client} (h : c.phase = .pairing) (now : Time) : c.enter .pairing now = c := by
  cases c
  simp only at h
  simp [enter, h, endsProbes]

theorem follow_eq {c : Client} {s : Signal} {p : Phase} (h : c.phase.next? s = some p) (now : Time) :
    c.follow s now = .ok (c.enter p now) := by
  simp [follow, Phase.follow, h]

theorem greetAgain_phase (c : Client) (name : String) (now : Time) :
    (c.greetAgain name now).phase = .connecting := by
  unfold greetAgain
  split
  · assumption
  · rfl

/-! ## Time-outs -/

section

variable {c : Client} {now : Time} {timeouts : SweepTimeouts}

/-- The client has been in a phase of the handshake for as long as it may, or for longer. -/
def IsOverdue (c : Client) (now : Time) (timeouts : SweepTimeouts) : Prop :=
  c.phase.isHandshaking = true ∧ deadline timeouts c.phase ≤ Time.elapsed now c.changedAt

instance : Decidable (c.IsOverdue now timeouts) := inferInstanceAs (Decidable (_ ∧ _))

/-- A sweep ends the handshake of the client. -/
def TimesOut (c : Client) (now : Time) (timeouts : SweepTimeouts) : Prop :=
  c.IsOverdue now timeouts ∧ c.phase ≠ .connected

instance : Decidable (c.TimesOut now timeouts) := inferInstanceAs (Decidable (_ ∧ _))

/-- The move that ends a handshake. -/
theorem TimesOut.next? (h : c.TimesOut now timeouts) :
    c.phase.next? (timeoutSignal c.phase) = some .disconnected := by
  obtain ⟨⟨hhandshaking, -⟩, hp⟩ := h
  cases hphase : c.phase <;> rw [hphase] at hhandshaking hp
  case connecting | pairing => rfl
  case connected => exact absurd rfl hp
  case disconnected | active => cases hhandshaking

theorem timeOut?_eq (c : Client) (now : Time) (timeouts : SweepTimeouts) : c.timeOut? now timeouts =
    if c.TimesOut now timeouts then some (c.enter .disconnected now) else none := by
  by_cases hlate : c.phase.isHandshaking = true ∧ deadline timeouts c.phase ≤ Time.elapsed now c.changedAt
  · rw [timeOut?, if_pos hlate]
    by_cases hp : c.phase = .connected
    · have hstuck : c.follow (timeoutSignal c.phase) now = .error ⟨.connected, .handshakeTimedOut⟩ := by
        rw [follow, hp]
        rfl
      rw [hstuck, if_neg fun hout => hout.2 hp]
    · have hout : c.TimesOut now timeouts := ⟨hlate, hp⟩
      rw [follow_eq hout.next?, if_pos hout]
  · rw [timeOut?, if_neg hlate, if_neg fun hout => hlate hout.1]

theorem TimesOut.phase_ne (h : c.TimesOut now timeouts) : c.phase ≠ .disconnected ∧ c.phase ≠ .active := by
  have hhandshaking := h.1.1
  constructor <;> intro hp <;> rw [hp] at hhandshaking <;> cases hhandshaking

theorem isAbsent_iff : c.isAbsent now timeouts = true ↔
    c.phase = .disconnected ∧ timeouts.absence ≤ Time.elapsed now c.changedAt := by
  simp [isAbsent]

/-- Who has just been disconnected is only gone for too long if nobody may be gone at all. -/
theorem TimesOut.isAbsent_iff (h : c.TimesOut now timeouts) :
    (c.enter .disconnected now).isAbsent now timeouts = true ↔ timeouts.absence = 0 := by
  have htime : (c.enter .disconnected now).changedAt = now := if_neg (Ne.symm h.phase_ne.1)
  simp [isAbsent, htime, Time.elapsed]

end

/-! ## Standing -/

/-- What being let in depends on: the phase, and when it was entered. -/
def standing (c : Client) : Phase × Time := (c.phase, c.changedAt)

/-- Only an active client is disconnected for probes that it missed. -/
theorem expireProbe_standing (c : Client) (now : Time) (timeout : Duration) (threshold : Nat) :
    (c.expireProbe now timeout threshold).1.standing = c.standing ∨
      (c.phase = .active ∧ (c.expireProbe now timeout threshold).1.phase = .disconnected) := by
  unfold expireProbe
  split
  · rename_i hactive
    split
    · exact .inl rfl
    · split
      · exact .inr ⟨hactive, rfl⟩
      · exact .inl rfl
  · exact .inl rfl

theorem probe?_standing {c c' : Client} {now : Time} {n : UInt64} (h : c.probe? now = some (n, c')) :
    c'.standing = c.standing := by
  unfold probe? at h
  split at h
  · obtain ⟨p, -, hp⟩ := Option.map_eq_some_iff.1 h
    cases hp
    rfl
  · cases h

theorem answer?_standing {c c' : Client} {n : UInt64} {now : Time} {d : Duration}
    (h : c.answer? n now = some (d, c')) : c'.standing = c.standing := by
  obtain ⟨p, -, hp⟩ := Option.map_eq_some_iff.1 h
  cases hp
  rfl

end Client

namespace Registry

variable {r : Registry} {id j : Uuid} {c : Client} {now : Time}

theorem ext_find? {r s : Registry} (h : ∀ id, r.find? id = s.find? id) : r = s :=
  congrArg Registry.mk (Table.ext_find? h)

theorem phase?_eq_some_iff {p : Phase} :
    r.phase? id = some p ↔ ∃ c, r.find? id = some c ∧ c.phase = p :=
  Option.map_eq_some_iff

theorem isActive_iff : r.isActive id = true ↔ r.phase? id = some .active := beq_iff_eq

/-- The phase of a client, and when it was entered. -/
def standing? (r : Registry) (id : Uuid) : Option (Phase × Time) := (r.find? id).map Client.standing

theorem phase?_eq_map (r : Registry) (id : Uuid) : r.phase? id = (r.standing? id).map Prod.fst := by
  rw [phase?, standing?, Option.map_map]
  rfl

theorem phase?_of_standing? {r r' : Registry} (h : r'.standing? id = r.standing? id) :
    r'.phase? id = r.phase? id := by
  rw [phase?_eq_map, phase?_eq_map, h]

/-! ## One record -/

theorem find?_store (r : Registry) (id j : Uuid) (c : Client) :
    (r.store id c).find? j = if j = id then some c else r.find? j :=
  Table.find?_insert r.clients id j c

theorem standing?_store (r : Registry) (id j : Uuid) (c : Client) :
    (r.store id c).standing? j = if j = id then some c.standing else r.standing? j := by
  rw [standing?, find?_store]
  split <;> rfl

theorem phase?_store (r : Registry) (id j : Uuid) (c : Client) :
    (r.store id c).phase? j = if j = id then some c.phase else r.phase? j := by
  rw [phase?, find?_store]
  split <;> rfl

/-- Of two records stored for one client the later one stays. -/
theorem store_store (r : Registry) (id : Uuid) (c c' : Client) :
    (r.store id c).store id c' = r.store id c' := by
  refine ext_find? fun j => ?_
  simp only [find?_store]
  split <;> rfl

theorem store_self (h : r.find? id = some c) : r.store id c = r := by
  refine ext_find? fun j => ?_
  rw [find?_store]
  split
  · rename_i hj
    rw [hj, h]
  · rfl

/-- The record of a client that has just said hello. -/
def greeted (r : Registry) (id : Uuid) (name : String) (now : Time) : Client :=
  match r.find? id with
  | some c => c.greetAgain name now
  | none => .new name .connecting now

theorem greet_eq (r : Registry) (id : Uuid) (name : String) (now : Time) :
    r.greet id name now = r.store id (r.greeted id name now) := by
  unfold greet greeted
  cases r.find? id <;> rfl

theorem greeted_phase (r : Registry) (id : Uuid) (name : String) (now : Time) :
    (r.greeted id name now).phase = .connecting := by
  unfold greeted
  split
  · exact Client.greetAgain_phase ..
  · rfl

theorem signal_eq {s : Signal} {p : Phase} (hc : r.find? id = some c) (hp : c.phase.next? s = some p)
    (now : Time) : r.signal id s now = .ok (p, r.store id (c.enter p now)) := by
  simp [signal, hc, Client.follow_eq hp]

/-- A signal to a record that was just stored. -/
theorem signal_store {s : Signal} {p : Phase} (hp : c.phase.next? s = some p) (now : Time) :
    (r.store id c).signal id s now = .ok (p, r.store id (c.enter p now)) := by
  rw [signal_eq (by rw [find?_store, if_pos rfl]) hp, store_store]

theorem find?_erase (r : Registry) (id j : Uuid) :
    (Registry.mk (r.clients.erase id)).find? j = if j = id then none else r.find? j :=
  Table.find?_erase r.clients id j

/-! ## Who is known -/

theorem contains_iff : r.contains id = true ↔ ∃ c, r.find? id = some c := Option.isSome_iff_exists

theorem contains_of_phase? {p : Phase} (h : r.phase? id = some p) : r.contains id = true := by
  obtain ⟨c, hc, -⟩ := phase?_eq_some_iff.1 h
  exact contains_iff.2 ⟨c, hc⟩

theorem contains_of_standing? {r' : Registry} (h : r'.standing? id = r.standing? id) :
    r'.contains id = r.contains id := by
  have hsome := congrArg Option.isSome h
  simp only [standing?, Option.isSome_map] at hsome
  exact hsome

/-- Whoever was known is known. -/
def Keeps (r r' : Registry) : Prop := ∀ id, r.contains id = true → r'.contains id = true

theorem keeps_store (r : Registry) (id : Uuid) (c : Client) : r.Keeps (r.store id c) := by
  intro j hj
  obtain ⟨c', hc'⟩ := contains_iff.1 hj
  rw [contains_iff, find?_store]
  split
  · exact ⟨c, rfl⟩
  · exact ⟨c', hc'⟩

theorem keeps_register (r : Registry) (id : Uuid) (name : String) (now : Time) :
    r.Keeps ((r.register? id name now).getD r) := by
  unfold register?
  split
  · exact fun _ h => h
  · apply keeps_store

theorem contains_register (r : Registry) (id : Uuid) (name : String) (now : Time) :
    ((r.register? id name now).getD r).contains id = true := by
  unfold register?
  split
  · assumption
  · rw [Option.getD_some, contains_iff, find?_store, if_pos rfl]
    exact ⟨_, rfl⟩

/-! ## Sweeps -/

variable {timeouts : SweepTimeouts} {retain : Uuid → Bool}

theorem find?_sweep (r : Registry) (now : Time) (timeouts : SweepTimeouts) (retain : Uuid → Bool)
    (id : Uuid) : (r.sweep now timeouts retain).2.find? id =
      ((r.find? id).map fun c => (c.timeOut? now timeouts).getD c).filter
        fun c => !(c.isAbsent now timeouts && !retain id) := by
  rw [show (r.sweep now timeouts retain).2.find? id = _ from Table.find?_filter _ _ id, Table.find?_map]
  rfl

theorem mem_timedOut_iff (r : Registry) (now : Time) (timeouts : SweepTimeouts) (retain : Uuid → Bool)
    (id : Uuid) : id ∈ (r.sweep now timeouts retain).1.timedOut ↔
      ∃ c, r.find? id = some c ∧ c.TimesOut now timeouts := by
  simp [sweep, find?, Table.find?_eq_some_iff, Client.timeOut?_eq]

/-- Whom a sweep removes is absent, and nobody to be retained. -/
theorem mem_removed_iff_absent (r : Registry) (now : Time) (timeouts : SweepTimeouts) (retain : Uuid → Bool)
    (id : Uuid) : id ∈ (r.sweep now timeouts retain).1.removed ↔
      ∃ c, r.find? id = some c ∧ ((c.timeOut? now timeouts).getD c).isAbsent now timeouts = true ∧
        retain id = false := by
  simp only [sweep, Table.map, find?, Table.find?_eq_some_iff, List.mem_map, List.mem_filter,
    Bool.and_eq_true, Bool.not_eq_true', Prod.exists, Prod.mk.injEq, exists_and_right, exists_eq_right]
  constructor
  · rintro ⟨_, ⟨_, c, hc, rfl, rfl⟩, hgoes⟩
    exact ⟨c, hc, hgoes⟩
  · rintro ⟨c, hc, hgoes⟩
    exact ⟨_, ⟨id, c, hc, rfl, rfl⟩, hgoes⟩

/-- What a sweep does with a client, who is to be `retained` or not, whether it reports it as `timedOut` and as
`removed`, and the record that is left. -/
inductive Fate (now : Time) (timeouts : SweepTimeouts) (retained : Bool) (c : Client) (timedOut removed : Prop)
    (record : Option Client) : Prop
  | stays : ¬ c.TimesOut now timeouts → (c.isAbsent now timeouts = true → retained = true) →
      ¬ timedOut → ¬ removed → record = some c → Fate now timeouts retained c timedOut removed record
  | ends : c.TimesOut now timeouts → (timeouts.absence = 0 → retained = true) →
      timedOut → ¬ removed → record = some (c.enter .disconnected now) →
      Fate now timeouts retained c timedOut removed record
  | goes : c.isAbsent now timeouts = true → retained = false →
      ¬ timedOut → removed → record = none → Fate now timeouts retained c timedOut removed record
  /-- Where nobody may be gone at all, who is timed out goes at once. -/
  | endsAndGoes : c.TimesOut now timeouts → timeouts.absence = 0 → retained = false →
      timedOut → removed → record = none → Fate now timeouts retained c timedOut removed record

theorem fate_sweep (h : r.find? id = some c) (now : Time) (timeouts : SweepTimeouts) (retain : Uuid → Bool) :
    Fate now timeouts (retain id) c (id ∈ (r.sweep now timeouts retain).1.timedOut)
      (id ∈ (r.sweep now timeouts retain).1.removed) ((r.sweep now timeouts retain).2.find? id) := by
  have hout := mem_timedOut_iff r now timeouts retain id
  have hgone := mem_removed_iff_absent r now timeouts retain id
  have hrecord := find?_sweep r now timeouts retain id
  simp only [h, Option.some.injEq, exists_eq_left', Option.map_some, Option.filter_some,
    Client.timeOut?_eq] at hout hgone hrecord
  by_cases ht : c.TimesOut now timeouts
  · simp only [if_pos ht, Option.getD_some] at hgone hrecord
    rw [ht.isAbsent_iff] at hgone
    by_cases hgo : timeouts.absence = 0 ∧ retain id = false
    · refine .endsAndGoes ht hgo.1 hgo.2 (hout.2 ht) (hgone.2 hgo) ?_
      rw [hrecord, ht.isAbsent_iff.2 hgo.1, hgo.2]
      rfl
    · have hkept : timeouts.absence = 0 → retain id = true := fun hz => by simpa [hz] using hgo
      refine .ends ht hkept (hout.2 ht) (fun hr => hgo (hgone.1 hr)) ?_
      rw [hrecord, if_pos]
      cases ha : (c.enter .disconnected now).isAbsent now timeouts with
      | false => rfl
      | true => simp [hkept (ht.isAbsent_iff.1 ha)]
  · simp only [if_neg ht, Option.getD_none] at hgone hrecord
    by_cases hgo : c.isAbsent now timeouts = true ∧ retain id = false
    · refine .goes hgo.1 hgo.2 (ht ∘ hout.1) (hgone.2 hgo) ?_
      rw [hrecord, hgo.1, hgo.2]
      rfl
    · have hkept : c.isAbsent now timeouts = true → retain id = true := fun ha => by simpa [ha] using hgo
      refine .stays ht hkept (ht ∘ hout.1) (fun hr => hgo (hgone.1 hr)) ?_
      rw [hrecord, if_pos]
      cases ha : c.isAbsent now timeouts with
      | false => rfl
      | true => simp [hkept ha]

theorem sweep_of_unknown (h : r.find? id = none) (now : Time) (timeouts : SweepTimeouts) (retain : Uuid → Bool) :
    id ∉ (r.sweep now timeouts retain).1.timedOut ∧ id ∉ (r.sweep now timeouts retain).1.removed ∧
      (r.sweep now timeouts retain).2.find? id = none := by
  rw [mem_timedOut_iff, mem_removed_iff_absent, find?_sweep, h]
  simp

theorem mem_removed_iff : id ∈ (r.sweep now timeouts retain).1.removed ↔ ∃ c, r.find? id = some c ∧ retain id = false ∧
    (c.isAbsent now timeouts = true ∨ (c.TimesOut now timeouts ∧ timeouts.absence = 0)) := by
  constructor
  · intro hr
    cases hc : r.find? id with
    | none => exact absurd hr (sweep_of_unknown hc now timeouts retain).2.1
    | some c =>
      cases fate_sweep hc now timeouts retain with
      | stays _ _ _ hnot | ends _ _ _ hnot => exact absurd hr hnot
      | goes habsent hfree => exact ⟨c, rfl, hfree, .inl habsent⟩
      | endsAndGoes hout hzero hfree => exact ⟨c, rfl, hfree, .inr ⟨hout, hzero⟩⟩
  · rintro ⟨c, hc, hfree, hgo⟩
    cases fate_sweep hc now timeouts retain with
    | goes _ _ _ hr | endsAndGoes _ _ _ _ hr => exact hr
    | stays hnot hkept =>
      rcases hgo with habsent | ⟨hout, -⟩
      · cases hfree.symm.trans (hkept habsent)
      · exact absurd hout hnot
    | ends hout hkept =>
      rcases hgo with habsent | ⟨-, hzero⟩
      · exact absurd (Client.isAbsent_iff.1 habsent).1 hout.phase_ne.1
      · cases hfree.symm.trans (hkept hzero)

/-- A sweep drops nobody else. -/
theorem contains_sweep (h : r.contains id = true) (hstays : id ∉ (r.sweep now timeouts retain).1.removed) :
    (r.sweep now timeouts retain).2.contains id = true := by
  obtain ⟨c, hc⟩ := contains_iff.1 h
  cases fate_sweep hc now timeouts retain with
  | stays _ _ _ _ hrecord | ends _ _ _ _ hrecord => exact contains_iff.2 ⟨_, hrecord⟩
  | goes _ _ _ hr | endsAndGoes _ _ _ _ hr => exact absurd hr hstays

/-- A client that a sweep reports as timed out is disconnected or removed. -/
theorem phase?_sweep_of_timedOut (h : id ∈ (r.sweep now timeouts retain).1.timedOut) :
    (r.sweep now timeouts retain).2.phase? id ∈ [none, some .disconnected] := by
  obtain ⟨c, hc, -⟩ := (mem_timedOut_iff ..).1 h
  cases fate_sweep hc now timeouts retain with
  | stays _ _ hnot | goes _ _ hnot => exact absurd h hnot
  | ends _ _ _ _ hrecord | endsAndGoes _ _ _ _ _ hrecord => simp [phase?, hrecord]

/-- A sweep leaves a client as it stands, or takes it to `disconnected` or out of the registry. -/
theorem standing?_sweep (r : Registry) (now : Time) (timeouts : SweepTimeouts) (retain : Uuid → Bool)
    (id : Uuid) : (r.sweep now timeouts retain).2.phase? id ∈ [none, some .disconnected] ∨
      (r.sweep now timeouts retain).2.standing? id = r.standing? id := by
  cases hc : r.find? id with
  | none =>
    have hrecord := (sweep_of_unknown hc now timeouts retain).2.2
    exact .inr (by rw [standing?, hrecord, standing?, hc])
  | some c =>
    cases fate_sweep hc now timeouts retain with
    | stays _ _ _ _ hrecord => exact .inr (by rw [standing?, hrecord, standing?, hc])
    | ends _ _ _ _ hrecord | goes _ _ _ _ hrecord | endsAndGoes _ _ _ _ _ hrecord =>
      exact .inl (by simp [phase?, hrecord])

/-- A sweep takes a client nowhere but to `disconnected` or out of the registry. -/
theorem phase?_sweep (r : Registry) (now : Time) (timeouts : SweepTimeouts) (retain : Uuid → Bool)
    (id : Uuid) :
    (r.sweep now timeouts retain).2.phase? id ∈ [none, some .disconnected, r.phase? id] := by
  rcases r.standing?_sweep now timeouts retain id with hgone | hsame
  · simp only [List.mem_cons, List.not_mem_nil, or_false] at hgone ⊢
    exact hgone.imp_right .inl
  · simp [phase?_of_standing? hsame]

/-- A pairing client that has run out of time is timed out, and another one is left pairing. -/
theorem sweep_of_pairing {t : Time} (h : r.standing? id = some (.pairing, t)) (now : Time)
    (timeouts : SweepTimeouts) (retain : Uuid → Bool) :
    (timeouts.pairing ≤ Time.elapsed now t ∧ id ∈ (r.sweep now timeouts retain).1.timedOut) ∨
      (Time.elapsed now t < timeouts.pairing ∧ id ∉ (r.sweep now timeouts retain).1.timedOut ∧
        (r.sweep now timeouts retain).2.standing? id = some (.pairing, t)) := by
  obtain ⟨c, hc, hstanding⟩ := Option.map_eq_some_iff.1 h
  obtain ⟨hp, rfl⟩ := Prod.mk.inj hstanding
  have hlate : c.TimesOut now timeouts ↔ timeouts.pairing ≤ Time.elapsed now c.changedAt := by
    simp [Client.TimesOut, Client.IsOverdue, Client.deadline, Phase.isHandshaking, hp]
  cases fate_sweep hc now timeouts retain with
  | ends hout _ ht | endsAndGoes hout _ _ ht => exact .inl ⟨hlate.1 hout, ht⟩
  | goes habsent => cases hp.symm.trans (Client.isAbsent_iff.1 habsent).1
  | stays hin _ hnot _ hrecord =>
    refine .inr ⟨Nat.not_le.1 (hin ∘ hlate.2), hnot, ?_⟩
    rw [standing?, hrecord]
    exact congrArg some hstanding

/-! ## Probes and telemetry -/

theorem find?_expireProbes (r : Registry) (now : Time) (timeout : Duration) (threshold : Nat) (id : Uuid) :
    (r.expireProbes now timeout threshold).2.find? id =
      (r.find? id).map fun c => (c.expireProbe now timeout threshold).1 :=
  Table.find?_map ..

theorem find?_startProbes (r : Registry) (now : Time) (id : Uuid) :
    (r.startProbes now).2.find? id =
      (r.find? id).map fun c => ((c.probe? now).map Prod.snd).getD c :=
  Table.find?_map ..

theorem standing?_expireProbes (r : Registry) (now : Time) (timeout : Duration) (threshold : Nat)
    (id : Uuid) : (r.expireProbes now timeout threshold).2.standing? id = r.standing? id ∨
      (r.phase? id = some .active ∧
        (r.expireProbes now timeout threshold).2.phase? id = some .disconnected) := by
  rw [standing?, phase?, phase?, find?_expireProbes, standing?]
  cases r.find? id with
  | none => exact .inl rfl
  | some c =>
    rcases c.expireProbe_standing now timeout threshold with h | ⟨hactive, hgone⟩
    · exact .inl (congrArg some h)
    · exact .inr ⟨congrArg some hactive, congrArg some hgone⟩

theorem standing?_startProbes (r : Registry) (now : Time) (id : Uuid) :
    (r.startProbes now).2.standing? id = r.standing? id := by
  rw [standing?, find?_startProbes, standing?]
  cases r.find? id with
  | none => rfl
  | some c =>
    cases hp : c.probe? now with
    | none => simp [hp]
    | some p => simp [hp, Client.probe?_standing hp]

/-- A record put in place of one of the same standing changes nobody's. -/
theorem standing?_store_of_eq {c' : Client} (hc : r.find? id = some c) (h : c'.standing = c.standing)
    (j : Uuid) : (r.store id c').standing? j = r.standing? j := by
  rw [standing?_store]
  split
  · rename_i hj
    rw [hj, h, standing?, hc]
    rfl
  · rfl

/-- An answer to a probe, late or not, changes no phase. -/
theorem standing?_answer {r' : Registry} {n : UInt64} {d : Option Duration}
    (h : r.answer id n now = .ok (d, r')) (j : Uuid) : r'.standing? j = r.standing? j := by
  unfold answer at h
  split at h
  · cases h
  · rename_i c hc
    split at h
    · rename_i d c' ha
      cases h
      exact standing?_store_of_eq hc (Client.answer?_standing ha) j
    · cases h
      rfl

theorem standing?_measure {r' : Registry} {d : Option Duration} {n : Nat}
    (h : r.measure id d n now = .ok r') (j : Uuid) : r'.standing? j = r.standing? j := by
  unfold measure at h
  split at h
  · cases h
  · rename_i c hc
    cases h
    have hsame : (c.measure d n now).standing = c.standing := rfl
    exact standing?_store_of_eq hc hsame j

end Registry

end SharedDesk
