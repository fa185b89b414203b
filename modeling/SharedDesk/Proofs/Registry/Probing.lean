import SharedDesk.Proofs.Registry.Run
import Mathlib.Data.List.Nodup
/-!
# Replies that count

The past of a registry tells which probes were sent to a client since it has its record (`sentProbes`), and
which of them are still open (`openProbes`): neither answered nor given up, with no activation since. An active
client has at most one open probe, and just the reply to that one counts (`replies_that_count`).
-/

namespace SharedDesk.Registry

namespace Operation

/-- The probe that an operation sends to a client. -/
def probeTo? (r : Registry) (id : Uuid) : Operation → Option Probe
  | start now => ((r.startProbes now).1.find? fun request => request.1 = id).map fun request => ⟨request.2, now⟩
  | _ => none

/-- A reply to a probe of a client. -/
def answers (id : Uuid) (p : Probe) : Operation → Bool
  | reply j number _ => j = id && number = p.number
  | _ => false

/-- An operation that gives a probe up, which is as old as the timeout. -/
def outdates (p : Probe) : Operation → Bool
  | expire now timeout _ => timeout ≤ Time.elapsed now p.sentAt
  | _ => false

/-- An operation that makes a client active. -/
def activates (r : Registry) (id : Uuid) (op : Operation) : Bool :=
  !r.isActive id && (r.operate op).isActive id

end Operation

/-- The probes sent to a client since it has its record, the latest one first. -/
def sentProbes (id : Uuid) : List Operation → List Probe
  | [] => []
  | op :: past =>
    if (after (op :: past)).contains id then (op.probeTo? (after past) id).toList ++ sentProbes id past else []

/-- The probes that were neither answered nor given up since they were sent, and not followed by an activation of
the client. -/
def openProbes (id : Uuid) : List Operation → List Probe
  | [] => []
  | op :: past => (op.probeTo? (after past) id).toList ++ (openProbes id past).filter fun p =>
      !(op.answers id p || op.outdates p || op.activates (after past) id)

variable {r : Registry} {id : Uuid} {c c' : Client} {op : Operation} {past : List Operation} {now : Time}
  {p : Probe} {number : UInt64}

/-! ## Sending -/

theorem mem_startProbes_iff : (id, number) ∈ (r.startProbes now).1 ↔
    ∃ c c', r.find? id = some c ∧ c.probe? now = some (number, c') := by
  simp only [startProbes, find?, Table.find?_eq_some_iff, List.mem_filterMap, Option.map_eq_some_iff,
    Prod.exists, Prod.mk.injEq]
  constructor
  · rintro ⟨_, c, hc, _, c', hsend, rfl, rfl⟩
    exact ⟨c, c', hc, hsend⟩
  · rintro ⟨c, c', hc, hsend⟩
    exact ⟨id, c, hc, number, c', hsend, rfl, rfl⟩

theorem probeTo?_start (r : Registry) (id : Uuid) (now : Time) : (Operation.start now).probeTo? r id =
    (r.find? id).bind fun c => (c.probe? now).map fun q => ⟨q.1, now⟩ := by
  rw [Operation.probeTo?]
  cases hrequest : (r.startProbes now).1.find? fun request => request.1 = id with
  | some request =>
    obtain rfl : request.1 = id := by simpa using List.find?_some hrequest
    obtain ⟨c, c', hc, hsend⟩ := mem_startProbes_iff.1 (List.mem_of_find?_eq_some hrequest)
    rw [hc, Option.bind_some, hsend]
    rfl
  | none =>
    cases hc : r.find? id with
    | none => rfl
    | some c =>
      cases hsend : c.probe? now with
      | none => rw [Option.bind_some, hsend]; rfl
      | some q =>
        have hmem : (id, q.1) ∈ (r.startProbes now).1 := mem_startProbes_iff.2 ⟨c, q.2, hc, hsend⟩
        exact absurd (decide_eq_true rfl) (List.find?_eq_none.1 hrequest _ hmem)

/-- Whose probes an operation passes is sent none. -/
theorem probeTo?_eq_none (hc : r.find? id = some c) (h : c.phase = .active → op.Passes id c.probes) :
    op.probeTo? r id = none := by
  cases op with
  | start now =>
    rw [probeTo?_start, hc, Option.bind_some, Client.probe?]
    split
    · rename_i hactive
      rw [show c.probes.send? now = none from h hactive]
      rfl
    · rfl
  | _ => rfl

theorem probeTo?_eq_some (hc : r.find? id = some c) (hactive : c.phase = .active)
    (hout : c.probes.outstanding = none) (now : Time) :
    (Operation.start now).probeTo? r id = some ⟨c.probes.next, now⟩ := by
  rw [probeTo?_start, hc, Option.bind_some, Client.probe?, if_pos hactive, ProbeTracker.send?, hout]
  rfl

theorem isActive_iff_exists : r.isActive id = true ↔ ∃ c, r.find? id = some c ∧ c.phase = .active :=
  isActive_iff.trans phase?_eq_some_iff

theorem isActive_eq (hc : r.find? id = some c) : r.isActive id = (c.phase == .active) := by
  rw [isActive, phase?, hc]
  rfl

theorem isActive_eq_false_iff (hc : r.find? id = some c) : r.isActive id = false ↔ c.phase ≠ .active := by
  rw [isActive_eq hc, beq_eq_false_iff_ne]

theorem activates_eq_false (h : r.isActive id = true) (op : Operation) : op.activates r id = false := by
  rw [Operation.activates, h]
  rfl

theorem activates_eq_true (hc : r.find? id = some c) (hc' : (r.operate op).find? id = some c')
    (hidle : c.phase ≠ .active) (hactive : c'.phase = .active) : op.activates r id = true := by
  rw [Operation.activates, isActive_eq hc, beq_eq_false_iff_ne.2 hidle]
  exact isActive_iff_exists.2 ⟨c', hc', hactive⟩

theorem sentProbes_of_none (h : (after past).find? id = none) : sentProbes id past = [] := by
  cases past with
  | nil => rfl
  | cons op past =>
    have hunknown : (after (op :: past)).contains id = false :=
      Option.isSome_eq_false_iff.2 (Option.isNone_iff_eq_none.2 h)
    rw [sentProbes, hunknown, if_neg Bool.false_ne_true]

theorem sentProbes_cons (h : (after (op :: past)).find? id = some c) :
    sentProbes id (op :: past) = (op.probeTo? (after past) id).toList ++ sentProbes id past := by
  rw [sentProbes, if_pos (contains_iff.2 ⟨c, h⟩)]

/-! ## What the record of a client shows -/

/-- Phase and probes of a client show what became of all the probes that it was sent. -/
structure Shows (past : List Operation) (id : Uuid) (phase : Phase) (t : ProbeTracker) : Prop where
  quiet : phase ≠ .active → t.outstanding = none ∧ t.misses = 0
  opened : phase = .active → openProbes id past = t.outstanding.toList
  sent : ∀ p, t.outstanding = some p → p ∈ sentProbes id past
  next : t.next = .ofNat (sentProbes id past).length
  numbers : (sentProbes id past).map Probe.number =
    ((List.range (sentProbes id past).length).map UInt64.ofNat).reverse

/-- An operation that sends nothing leaves all to be shown but which probe is open. -/
theorem Shows.of_unsent {phase phase' : Phase} {t t' : ProbeTracker} (h : Shows past id phase t)
    (hsent : sentProbes id (op :: past) = sentProbes id past) (hnext : t'.next = t.next)
    (hout : ∀ p, t'.outstanding = some p → t.outstanding = some p)
    (hquiet : phase' ≠ .active → t'.outstanding = none ∧ t'.misses = 0)
    (hopened : phase' = .active → openProbes id (op :: past) = t'.outstanding.toList) :
    Shows (op :: past) id phase' t' where
  quiet := hquiet
  opened := hopened
  sent p hp := by
    rw [hsent]
    exact h.sent p (hout p hp)
  next := by rw [hsent, hnext, h.next]
  numbers := by rw [hsent, h.numbers]

/-- A client that was not known before has been sent nothing. -/
theorem shows_fresh (h : (after past).find? id = none) (h' : (after (op :: past)).find? id = some c) :
    Shows (op :: past) id c.phase c.probes := by
  obtain ⟨hidle, hfresh⟩ := fresh_of_operate h h'
  have hnone : op.probeTo? (after past) id = none := by
    cases op with
    | start now => rw [probeTo?_start, h, Option.bind_none]
    | _ => rfl
  have hsent : sentProbes id (op :: past) = [] := by
    rw [sentProbes_cons h', hnone, sentProbes_of_none h]
    rfl
  constructor <;> simp only [hfresh, hsent]
  · exact fun _ => ⟨rfl, rfl⟩
  · exact fun hactive => absurd hactive hidle
  · nofun
  · rfl
  · rfl

/-- An operation that passes the open probe neither answers it nor gives it up. -/
theorem answers_of_passes {t : ProbeTracker} (hpasses : op.Passes id t) (hout : t.outstanding = some p) :
    op.answers id p = false := by
  cases op with
  | reply j number now =>
    rw [Operation.answers, Bool.and_eq_false_iff, decide_eq_false_iff_not, decide_eq_false_iff_not]
    by_cases hid : j = id
    · have hanswer := hpasses hid
      refine .inr fun hnumber => ?_
      simp [ProbeTracker.answer?, hout, hnumber] at hanswer
    · exact .inl hid
  | _ => rfl

theorem outdates_of_passes {t : ProbeTracker} (hpasses : op.Passes id t) (hout : t.outstanding = some p) :
    op.outdates p = false := by
  cases op with
  | expire now timeout threshold =>
    refine decide_eq_false fun hold => ?_
    have hexpire : t.expire? now timeout = none := hpasses
    simp [ProbeTracker.expire?, hout, hold] at hexpire
  | _ => rfl

/-- The open probe of an active client stays open while operations pass it. -/
theorem openProbes_of_passes {t : ProbeTracker} (hopen : openProbes id past = t.outstanding.toList)
    (hnone : op.probeTo? (after past) id = none) (hactive : (after past).isActive id = true)
    (hpasses : op.Passes id t) : openProbes id (op :: past) = t.outstanding.toList := by
  rw [openProbes, hnone, hopen]
  refine List.filter_eq_self.2 fun p hp => ?_
  have hout : t.outstanding = some p := Option.mem_toList.1 hp
  rw [answers_of_passes hpasses hout, outdates_of_passes hpasses hout, activates_eq_false hactive]
  rfl

theorem shows_operate (h : Shows past id c.phase c.probes) (hc : (after past).find? id = some c)
    (hc' : (after (op :: past)).find? id = some c') : Shows (op :: past) id c'.phase c'.probes := by
  have hturn : Turn id op c.phase c.probes c'.phase c'.probes := turn_operate hc hc'
  have hnone : (c.phase = .active → op.Passes id c.probes) → op.probeTo? (after past) id = none :=
    probeTo?_eq_none hc
  have hsends : c.phase = .active → c.probes.outstanding = none → ∀ now,
      (Operation.start now).probeTo? (after past) id = some ⟨c.probes.next, now⟩ := probeTo?_eq_some hc
  have hsent := sentProbes_cons hc'
  have hactive : c.phase = .active → (after past).isActive id = true := fun hactive =>
    isActive_iff_exists.2 ⟨c, hc, hactive⟩
  have hactivates : c.phase ≠ .active → c'.phase = .active → op.activates (after past) id = true :=
    activates_eq_true hc hc'
  -- From here on the two records are told by their phases and probes alone.
  generalize c.phase = phase, c.probes = t, c'.phase = phase', c'.probes = t' at *
  have hunsent : op.probeTo? (after past) id = none → sentProbes id (op :: past) = sentProbes id past := by
    intro hnone
    rw [hsent, hnone]
    rfl
  cases hturn with
  | idle hp hp' ht' =>
    -- A client that is not active has no probe to put aside.
    obtain ⟨hout, hmisses⟩ := h.quiet hp
    have hreset : t.reset = t := by rw [ProbeTracker.reset, ← hout, ← hmisses]
    obtain rfl : t' = t.reset := ht'.elim (fun heq => heq.trans hreset.symm) fun heq => heq
    exact h.of_unsent (hunsent (hnone fun hp'' => absurd hp'' hp)) rfl nofun (fun _ => ⟨rfl, rfl⟩)
      fun hp'' => absurd hp'' hp'
  | activated hp =>
    have hunsent' := hnone fun hp' => absurd hp' hp
    refine h.of_unsent (hunsent hunsent') rfl nofun (fun _ => ⟨rfl, rfl⟩) fun _ => ?_
    rw [openProbes, hunsent']
    exact List.filter_eq_nil_iff.2 fun p _ => by simp [hactivates hp rfl]
  | ended hp' hends =>
    have hunsent' : op.probeTo? (after past) id = none := by
      cases op <;> first | rfl | cases hends
    exact h.of_unsent (hunsent hunsent') rfl nofun (fun _ => ⟨rfl, rfl⟩) fun hp => absurd hp hp'
  | kept hpasses =>
    have hunsent' := hnone fun _ => hpasses
    exact h.of_unsent (hunsent hunsent') rfl (fun _ hout => hout) h.quiet fun hp =>
      openProbes_of_passes (h.opened hp) hunsent' (hactive rfl) hpasses
  | @sent now _ hout =>
    have hsends := hsends rfl hout now
    rw [hsends] at hsent
    refine ⟨fun hp => absurd rfl hp, fun _ => ?_, fun p hp => ?_, ?_, ?_⟩
    · rw [openProbes, hsends, h.opened rfl, hout]
      rfl
    · rw [← Option.some.inj hp, hsent]
      exact List.mem_cons_self
    · rw [hsent, h.next]
      exact (UInt64.ofNat_add ..).symm
    · rw [hsent, Option.toList_some, List.singleton_append, List.map_cons, List.length_cons, List.range_succ,
        List.map_append, List.reverse_append, h.numbers, h.next]
      rfl
  | missed hout hold hfew =>
    refine h.of_unsent (hunsent rfl) rfl nofun (fun hp => absurd rfl hp) fun hp => ?_
    rw [openProbes, h.opened hp, hout]
    simp [Operation.probeTo?, Operation.outdates, hold]
  | answered hout hnumber =>
    refine h.of_unsent (hunsent rfl) rfl nofun (fun hp => absurd rfl hp) fun hp => ?_
    rw [openProbes, h.opened hp, hout]
    simp [Operation.probeTo?, Operation.answers, hnumber]

theorem shows_after (h : (after past).find? id = some c) : Shows past id c.phase c.probes := by
  induction past generalizing c with
  | nil => cases h
  | cons op past ih =>
    cases hc : (after past).find? id with
    | none => exact shows_fresh hc h
    | some c₀ => exact shows_operate (ih hc) hc h

/-! ## Replies -/

/-- The record of a client after a reply that counts. -/
def replied (c : Client) (roundTrip : Duration) (now : Time) : Client :=
  { c with
    probes := { c.probes with outstanding := none, misses := 0 }
    pongedAt := some now
    latency := c.latency.record roundTrip }

theorem answer_eq_ok_some_iff {r' : Registry} {d : Duration} :
    r.answer id number now = .ok (some d, r') ↔ ∃ c p, r.find? id = some c ∧
      c.probes.outstanding = some p ∧ p.number = number ∧ d = Time.elapsed now p.sentAt ∧
      r' = r.store id (replied c d now) := by
  unfold answer
  cases r.find? id with
  | none => simp
  | some c =>
    cases hanswer : c.probes.answer? number now with
    | none =>
      simp only [Client.answer?, hanswer, Option.map_none, Except.ok.injEq, Prod.mk.injEq, reduceCtorEq,
        false_and, false_iff]
      rintro ⟨_, p, ⟨⟩, hout, hnumber, -⟩
      simp [ProbeTracker.answer?, hout, hnumber] at hanswer
    | some q =>
      obtain ⟨p, hout, hnumber, hd, hreset⟩ := ProbeTracker.answer?_eq_some_iff.1 hanswer
      simp only [Client.answer?, hanswer, Option.map_some, Except.ok.injEq, Prod.mk.injEq, Option.some.injEq,
        hreset]
      constructor
      · rintro ⟨rfl, rfl⟩
        exact ⟨c, p, rfl, hout, hnumber, hd, rfl⟩
      · rintro ⟨_, p', rfl, hout', -, hd', rfl⟩
        obtain rfl := Option.some.inj (hout.symm.trans hout')
        obtain rfl := hd.trans hd'.symm
        exact ⟨rfl, rfl⟩

end SharedDesk.Registry
