import SharedDesk.Proofs.Registry.Probing
/-!
# When a silent client is disconnected

A client is disconnected for its silence when as many of its probes as the threshold says, and one at least, were
given up since it was activated or a reply of it counted (`missed`), and not one probe earlier. Told of rounds
that give old probes up and send new ones: a client that never replies is disconnected in the round after the
last one it is allowed to miss (`disconnected_when_missed`).
-/

namespace SharedDesk.Registry

open Ranked (rank)

namespace Operation

/-- A reply of a client that counts. -/
def counts (r : Registry) (id : Uuid) : Operation → Bool
  | reply j number now =>
    match r.answer j number now with
    | .ok (some _, _) => j = id
    | _ => false
  | _ => false

/-- An operation that can do something to the phase or the probes of an active client. -/
def concerns (id : Uuid) : Operation → Bool
  | greet j .. | signal j .. | reply j .. | forget j => j = id
  | start .. | expire .. => true
  | register .. | measure .. | sweep .. => false

/-- Old probes are given up by one timeout and one threshold only. -/
def Uses (timeout : Duration) (threshold : UInt32) : Operation → Prop
  | expire _ timeout' threshold' => timeout' = timeout ∧ threshold' = threshold
  | _ => True

end Operation

/-- How many probes of a client an operation gives up. -/
def givenUp (id : Uuid) (past : List Operation) (op : Operation) : Nat :=
  if (after past).isActive id then ((openProbes id past).filter fun p => op.outdates p).length else 0

/-- How many probes of a client were given up since it was activated or a reply of it counted, whatever is
later. -/
def missed (id : Uuid) : List Operation → Nat
  | [] => 0
  | op :: past =>
    if op.activates (after past) id || op.counts (after past) id then 0
    else missed id past + givenUp id past op

/-- How many probes of a client are given up in a stretch of a run, the latest operation first. -/
def expirations (id : Uuid) (earlier : List Operation) : List Operation → Nat
  | [] => 0
  | op :: stretch => expirations id earlier stretch + givenUp id (stretch ++ earlier) op

/-- A reply of a client counts in a stretch of a run. -/
def repliedIn (id : Uuid) (earlier : List Operation) : List Operation → Bool
  | [] => false
  | op :: stretch => op.counts (after (stretch ++ earlier)) id || repliedIn id earlier stretch

/-- Probe rounds at given times, the latest one first: old probes are given up and new ones sent. -/
def rounds (timeout : Duration) (threshold : UInt32) : List Time → List Operation
  | [] => []
  | now :: times => .start now :: .expire now timeout threshold :: rounds timeout threshold times

variable {r : Registry} {id : Uuid} {c c' : Client} {op : Operation} {past : List Operation} {now : Time}
  {timeout : Duration} {threshold : UInt32}

theorem allowance_pos (threshold : UInt32) : 0 < allowance threshold :=
  Nat.lt_of_lt_of_le Nat.one_pos (Nat.le_max_right ..)

/-- The counter never comes near its ceiling. -/
theorem addCount_one {n : Nat} (h : n < allowance threshold) : addCount n 1 = n + 1 := by
  have hceiling : allowance threshold ≤ countCeiling := by
    have hlt := threshold.toNat_lt
    simp only [allowance, countCeiling, UInt32.size]
    omega
  exact Nat.min_eq_left (Nat.le_trans h hceiling)

/-! ## Counting -/

theorem counts_eq_false (hc : r.find? id = some c) (h : op.Passes id c.probes) : op.counts r id = false := by
  cases op with
  | reply j number now =>
    rw [Operation.counts]
    split
    · rename_i d r' hanswer
      refine decide_eq_false fun hid => ?_
      subst hid
      obtain ⟨c, p, hc', hout, hnumber, -⟩ := answer_eq_ok_some_iff.1 hanswer
      obtain rfl := Option.some.inj (hc.symm.trans hc')
      have hanswer := h rfl
      simp [ProbeTracker.answer?, hout, hnumber] at hanswer
    · rfl
  | _ => rfl

theorem counts_eq_true {number : UInt64} {p : Probe} (hc : r.find? id = some c)
    (hout : c.probes.outstanding = some p) (hnumber : p.number = number) (now : Time) :
    (Operation.reply id number now).counts r id = true := by
  rw [Operation.counts, answer_eq_ok_some_iff.2 ⟨c, p, hc, hout, hnumber, rfl, rfl⟩]
  exact decide_eq_true rfl

/-- Of an active client, an operation that does not answer the open probe counts what it gives up. -/
theorem missed_cons (hactive : (after past).isActive id = true) (hcounts : op.counts (after past) id = false) :
    missed id (op :: past) = missed id past + ((openProbes id past).filter fun p => op.outdates p).length := by
  rw [missed, activates_eq_false hactive, hcounts, givenUp, if_pos hactive]
  rfl

/-- The record of an active client holds the number of its misses, and it is not one too many. -/
structure Counted (past : List Operation) (id : Uuid) (threshold : UInt32) (t : ProbeTracker) : Prop where
  misses : t.misses = missed id past
  few : t.misses < allowance threshold

theorem counted_operate (hop : op.Uses timeout threshold) (hc : (after past).find? id = some c)
    (hc' : (after (op :: past)).find? id = some c') (hactive' : c'.phase = .active)
    (h : c.phase = .active → Counted past id threshold c.probes) :
    Counted (op :: past) id threshold c'.probes := by
  have hturn : Turn id op c.phase c.probes c'.phase c'.probes := turn_operate hc hc'
  have hopen : c.phase = .active → openProbes id past = c.probes.outstanding.toList := (shows_after hc).opened
  have hactive : c.phase = .active → (after past).isActive id = true := fun hactive =>
    isActive_iff_exists.2 ⟨c, hc, hactive⟩
  have hcounts : op.Passes id c.probes → op.counts (after past) id = false := counts_eq_false hc
  have hreply : ∀ {number p}, c.probes.outstanding = some p → p.number = number → ∀ now,
      (Operation.reply id number now).counts (after past) id = true := counts_eq_true hc
  have hactivates : c.phase ≠ .active → op.activates (after past) id = true := fun hidle =>
    activates_eq_true hc hc' hidle hactive'
  -- From here on the two records are told by their phases and probes alone.
  generalize c.phase = phase, c.probes = t, c'.phase = phase', c'.probes = t' at *
  cases hturn with
  | idle _ hidle => exact absurd hactive' hidle
  | ended hidle => exact absurd hactive' hidle
  | activated hidle =>
    refine ⟨?_, allowance_pos threshold⟩
    rw [missed, hactivates hidle]
    rfl
  | kept hpasses =>
    obtain ⟨hmisses, hfew⟩ := h rfl
    have hkept : (openProbes id past).filter (fun p => op.outdates p) = [] := by
      rw [hopen rfl]
      refine List.filter_eq_nil_iff.2 fun p hp => ?_
      rw [outdates_of_passes hpasses (Option.mem_toList.1 hp)]
      exact Bool.false_ne_true
    refine ⟨?_, hfew⟩
    rw [missed_cons (hactive rfl) (hcounts hpasses), hkept, hmisses]
    rfl
  | sent hout =>
    obtain ⟨hmisses, hfew⟩ := h rfl
    refine ⟨?_, hfew⟩
    rw [missed_cons (hactive rfl) rfl, hopen rfl, hout]
    exact hmisses
  | @missed now timeout' threshold' _ p hout hold hfew =>
    obtain ⟨hmisses, hbelow⟩ := h rfl
    obtain ⟨-, rfl⟩ := hop
    refine ⟨?_, hfew⟩
    rw [missed_cons (hactive rfl) rfl, hopen rfl, hout, ← hmisses]
    simp [Operation.outdates, hold, addCount_one hbelow]
  | @answered number now _ p hout hnumber =>
    refine ⟨?_, allowance_pos threshold⟩
    rw [missed, hreply hout hnumber now, Bool.or_true]
    rfl

theorem counted_after (hpast : ∀ op ∈ past, op.Uses timeout threshold) (hc : (after past).find? id = some c)
    (hactive : c.phase = .active) : Counted past id threshold c.probes := by
  induction past generalizing c with
  | nil => cases hc
  | cons op past ih =>
    obtain ⟨hop, hpast⟩ := List.forall_mem_cons.1 hpast
    cases hbefore : (after past).find? id with
    | none => exact absurd hactive (fresh_of_operate hbefore hc).1
    | some c₀ => exact counted_operate hop hbefore hc hactive (ih hpast hbefore)

/-! ## The verdict -/

theorem expireProbe_out_iff : (c.expireProbe now timeout threshold.toNat).2 = true ↔ c.phase = .active ∧
    ∃ p, c.probes.outstanding = some p ∧ timeout ≤ Time.elapsed now p.sentAt ∧
      allowance threshold ≤ addCount c.probes.misses 1 := by
  unfold Client.expireProbe
  split
  · rename_i hactive
    cases hexpire : c.probes.expire? now timeout with
    | none =>
      simp only [Bool.false_eq_true, hactive, true_and, false_iff]
      rintro ⟨p, hout, hold, -⟩
      simp [ProbeTracker.expire?, hout, hold] at hexpire
    | some t =>
      obtain ⟨p, hout, hold, rfl⟩ := ProbeTracker.expire?_eq_some_iff.1 hexpire
      simp only [hactive, hout, true_and, Option.some.injEq]
      split
      · rename_i hmany
        exact iff_of_true rfl ⟨p, rfl, hold, hmany⟩
      · rename_i hfew
        refine iff_of_false Bool.false_ne_true ?_
        rintro ⟨-, -, -, hmany⟩
        exact hfew hmany
  · rename_i hidle
    simp [hidle]

/-- Who is told to be out is disconnected, and nobody else's phase is touched. -/
theorem expireProbe_verdict (c : Client) (now : Time) (timeout : Duration) (threshold : Nat) :
    ((c.expireProbe now timeout threshold).2 = true ∧
        (c.expireProbe now timeout threshold).1.phase = .disconnected) ∨
      ((c.expireProbe now timeout threshold).2 = false ∧
        (c.expireProbe now timeout threshold).1.standing = c.standing) := by
  unfold Client.expireProbe
  split
  · split
    · exact .inr ⟨rfl, rfl⟩
    · split
      · exact .inl ⟨rfl, rfl⟩
      · exact .inr ⟨rfl, rfl⟩
  · exact .inr ⟨rfl, rfl⟩

theorem mem_expireProbes_iff {threshold : Nat} : id ∈ (r.expireProbes now timeout threshold).1 ↔
    ∃ c, r.find? id = some c ∧ (c.expireProbe now timeout threshold).2 = true := by
  simp [expireProbes, find?, Table.find?_eq_some_iff]

theorem ascending_expireProbes (r : Registry) (now : Time) (timeout : Duration) (threshold : Nat) :
    (r.expireProbes now timeout threshold).1.Pairwise fun a b => rank a < rank b :=
  List.pairwise_map.2 (r.clients.ascending.filter _)

/-- Giving old probes up disconnects those active clients whose misses come to the allowance with it. -/
theorem mem_expireProbes_after (hpast : ∀ op ∈ past, op.Uses timeout threshold) (now : Time) :
    id ∈ ((after past).expireProbes now timeout threshold.toNat).1 ↔ (after past).isActive id = true ∧
      missed id (.expire now timeout threshold :: past) = allowance threshold := by
  rw [mem_expireProbes_iff, isActive_iff_exists, ← exists_and_right]
  refine exists_congr fun c => ?_
  rw [and_assoc, expireProbe_out_iff]
  refine and_congr_right fun hc => and_congr_right fun hactive => ?_
  have hactive' : (after past).isActive id = true := isActive_iff_exists.2 ⟨c, hc, hactive⟩
  obtain ⟨hmisses, hfew⟩ := counted_after hpast hc hactive
  rw [missed_cons hactive' rfl, (shows_after hc).opened hactive, addCount_one hfew, ← hmisses]
  cases hout : c.probes.outstanding with
  | none =>
    simp only [reduceCtorEq, false_and, exists_false, Option.toList_none, List.filter_nil, List.length_nil,
      false_iff]
    omega
  | some p =>
    by_cases hold : timeout ≤ Time.elapsed now p.sentAt
    · simp only [Option.some.injEq, exists_eq_left', hold, true_and, Option.toList_some, Operation.outdates,
        decide_true, List.filter_cons_of_pos, List.filter_nil, List.length_singleton]
      omega
    · simp only [Option.some.injEq, exists_eq_left', hold, false_and, Option.toList_some, Operation.outdates,
        decide_false, Bool.false_eq_true, not_false_eq_true, List.filter_cons_of_neg, List.filter_nil,
        List.length_nil, false_iff]
      omega

/-- Whoever is told of is disconnected, and everybody else stays in the phase they are in. -/
theorem expireProbes_verdict (r : Registry) (id : Uuid) (now : Time) (timeout : Duration) (threshold : Nat) :
    let expired := r.expireProbes now timeout threshold
    (id ∈ expired.1 → expired.2.phase? id = some .disconnected) ∧
      (id ∉ expired.1 → expired.2.standing? id = r.standing? id) := by
  dsimp only
  rw [mem_expireProbes_iff, phase?, standing?, standing?, find?_expireProbes]
  cases hc : r.find? id with
  | none => simp
  | some c =>
    simp only [Option.some.injEq, exists_eq_left', Option.map_some]
    rcases expireProbe_verdict c now timeout threshold with ⟨hout, hgone⟩ | ⟨hstays, hsame⟩
    · exact ⟨fun _ => by rw [hgone], fun h => absurd hout h⟩
    · refine ⟨fun h => ?_, fun _ => by rw [hsame]⟩
      cases hstays.symm.trans h

/-! ## Replies in time -/

/-- The misses of a client all lie in one stretch at the end, in which no reply counts. -/
theorem exists_stretch (id : Uuid) (past : List Operation) : ∃ stretch earlier, past = stretch ++ earlier ∧
    expirations id earlier stretch = missed id past ∧ repliedIn id earlier stretch = false := by
  induction past with
  | nil => exact ⟨[], [], rfl, rfl, rfl⟩
  | cons op past ih =>
    rw [missed]
    split
    · exact ⟨[], op :: past, rfl, rfl, rfl⟩
    · rename_i hgoes
      obtain ⟨stretch, earlier, rfl, hcount, hreplied⟩ := ih
      have hcounts : op.counts (after (stretch ++ earlier)) id = false :=
        Bool.eq_false_iff.2 fun hcounts => hgoes (by rw [hcounts, Bool.or_true])
      refine ⟨op :: stretch, earlier, rfl, ?_, ?_⟩
      · rw [expirations, hcount]
      · rw [repliedIn, hcounts, hreplied]
        rfl

/-- A client of which a reply counts in every stretch of a run with as many misses as the allowance is never
disconnected for its silence. -/
theorem stays_with_replies (hpast : ∀ op ∈ past, op.Uses timeout threshold)
    (hreplies : ∀ newer stretch older, past = newer ++ stretch ++ older →
      allowance threshold ≤ expirations id older stretch → repliedIn id older stretch = true)
    {newer older : List Operation} (h : past = newer ++ .expire now timeout threshold :: older) :
    id ∉ ((after older).expireProbes now timeout threshold.toNat).1 := by
  have holder : ∀ op ∈ older, op.Uses timeout threshold := fun op hop =>
    hpast op (by rw [h]; exact List.mem_append_right _ (List.mem_cons_of_mem _ hop))
  rw [mem_expireProbes_after holder]
  rintro ⟨-, hmissed⟩
  -- The misses that were too many lie in a stretch without a reply.
  obtain ⟨stretch, earlier, heq, hcount, hreplied⟩ := exists_stretch id (.expire now timeout threshold :: older)
  have hreplied' := hreplies newer stretch earlier (by rw [h, heq, List.append_assoc])
    (Nat.le_of_eq (hcount.trans hmissed).symm)
  cases hreplied.symm.trans hreplied'

/-! ## Silence -/

/-- A client is active, and its probes are as told. -/
def Probed (past : List Operation) (id : Uuid) (told : ProbeTracker → Prop) : Prop :=
  ∃ c, (after past).find? id = some c ∧ c.phase = .active ∧ told c.probes

/-- The probe sent at the latest of some times is on its way, and those sent at the others were missed. -/
structure Awaiting (times : List Time) (t : ProbeTracker) : Prop where
  outstanding : t.outstanding.map Probe.sentAt = times.head?
  misses : t.misses = times.length - 1

/-- The probes sent at some times were missed, all of them. -/
structure Missing (times : List Time) (t : ProbeTracker) : Prop where
  outstanding : t.outstanding = none
  misses : t.misses = times.length

variable {times : List Time}

/-- What does not concern an active client leaves it active, and its probes as they are. -/
theorem Probed.of_unconcerned {told : ProbeTracker → Prop} (h : Probed past id told)
    (hop : op.concerns id = false) : Probed (op :: past) id told := by
  obtain ⟨c, hc, hactive, htold⟩ := h
  have hother : ∀ j, decide (j = id) = false → id ≠ j := fun j hj => Ne.symm (of_decide_eq_false hj)
  rw [Probed, after, find?_operate, hc]
  cases op with
  | greet j | signal j | reply j | forget j => exact ⟨c, if_neg (hother j hop), hactive, htold⟩
  | start now | expire now timeout threshold => cases hop
  | register j name now =>
    refine ⟨c, ?_, hactive, htold⟩
    rw [Operation.touch, Option.getD_some, ite_self]
  | measure j roundTrip count now =>
    rw [Operation.touch]
    split
    · exact ⟨c.measure roundTrip count now, rfl, hactive, htold⟩
    · exact ⟨c, rfl, hactive, htold⟩
  | sweep now timeouts retain =>
    have hout : c.timeOut? now timeouts = none := by
      rw [Client.timeOut?_eq, if_neg fun hout => hout.phase_ne.2 hactive]
    have hpresent : c.isAbsent now timeouts = false := by
      rw [Client.isAbsent, hactive]
      rfl
    refine ⟨c, ?_, hactive, htold⟩
    rw [Operation.touch, Option.map_some, hout, Option.getD_none, Option.filter_some, hpresent]
    rfl

theorem probed_activated (h : op.activates (after past) id = true) : Probed (op :: past) id (Awaiting []) := by
  rw [Operation.activates, Bool.and_eq_true, Bool.not_eq_true'] at h
  obtain ⟨hidle, hactive⟩ := h
  obtain ⟨c', hc', hactive⟩ := isActive_iff_exists.1 hactive
  refine ⟨c', hc', hactive, ?_⟩
  cases hc : (after past).find? id with
  | none => exact absurd hactive (fresh_of_operate hc hc').1
  | some c =>
    rw [isActive_eq hc, beq_eq_false_iff_ne] at hidle
    have hturn := turn_operate hc hc'
    generalize c.phase = phase, c.probes = t, c'.phase = phase', c'.probes = t' at *
    cases hturn with
    | idle _ hidle' => exact absurd hactive hidle'
    | activated => exact ⟨rfl, rfl⟩
    | _ => exact absurd rfl hidle

theorem Probed.start (h : Probed past id (Missing times)) (now : Time) :
    Probed (.start now :: past) id (Awaiting (now :: times)) := by
  obtain ⟨c, hc, hactive, hout, hmisses⟩ := h
  rw [Probed, after, find?_operate, hc, Operation.touch, Option.map_some]
  simp only [Client.probe?, if_pos hactive, ProbeTracker.send?, hout, Option.map_some, Option.getD_some]
  exact ⟨_, rfl, hactive, rfl, hmisses⟩

theorem Probed.expire (h : Probed past id (Awaiting times)) (hfew : times.length < allowance threshold)
    (hspaced : ∀ t ∈ times.head?, t + timeout ≤ now) :
    Probed (.expire now timeout threshold :: past) id (Missing times) := by
  obtain ⟨c, hc, hactive, hout, hmisses⟩ := h
  rw [Probed, after, find?_operate, hc, Operation.touch, Option.map_some, Client.expireProbe, if_pos hactive]
  cases times with
  | nil =>
    have hnone : c.probes.outstanding = none := Option.map_eq_none_iff.1 hout
    simp only [ProbeTracker.expire?, hnone]
    exact ⟨c, rfl, hactive, hnone, hmisses⟩
  | cons t rest =>
    obtain ⟨p, hp, rfl⟩ := Option.map_eq_some_iff.1 hout
    have hold : timeout ≤ Time.elapsed now p.sentAt := Nat.le_sub_of_add_le' (hspaced _ rfl)
    have hcount : addCount c.probes.misses 1 = rest.length + 1 := by
      rw [hmisses, List.length_cons, Nat.add_sub_cancel]
      exact addCount_one (Nat.lt_of_succ_lt hfew)
    have hbelow : ¬ max threshold.toNat 1 ≤ rest.length + 1 := Nat.not_le.2 hfew
    simp only [ProbeTracker.expire?, hp, hold, if_true, hcount, if_neg hbelow]
    exact ⟨_, rfl, hactive, rfl, rfl⟩

/-- A client that was activated, and since then met nothing but probe rounds, is still active while these are no
more than the allowance. Between the halves of a round it has missed the probes of all rounds before. -/
theorem probed_silent {before : List Operation} (hop : op.activates (after before) id = true) :
    ∀ (later : List Operation) (times : List Time), (∀ now,
      later.filter (fun a => a.concerns id) = .expire now timeout threshold :: rounds timeout threshold times →
      (now :: times).Pairwise (fun t s => s + timeout ≤ t) → times.length < allowance threshold →
      Probed (later ++ op :: before) id (Missing times)) ∧
    (later.filter (fun a => a.concerns id) = rounds timeout threshold times →
      times.Pairwise (fun t s => s + timeout ≤ t) → times.length ≤ allowance threshold →
      Probed (later ++ op :: before) id (Awaiting times)) := by
  -- Each half of a round follows from the other half with one operation less, so both are proved together.
  intro later
  induction later with
  | nil =>
    intro times
    refine ⟨nofun, fun hseen _ _ => ?_⟩
    cases times with
    | nil => exact probed_activated hop
    | cons now times => cases hseen
  | cons a later ih =>
    intro times
    cases ha : a.concerns id with
    | false =>
      rw [List.filter_cons_of_neg (by rw [ha]; exact Bool.false_ne_true)]
      obtain ⟨hmid, hfull⟩ := ih times
      exact ⟨fun now hseen hspaced hfew => (hmid now hseen hspaced hfew).of_unconcerned ha,
        fun hseen hspaced hfew => (hfull hseen hspaced hfew).of_unconcerned ha⟩
    | true =>
      rw [List.filter_cons_of_pos ha]
      refine ⟨fun now hseen hspaced hfew => ?_, fun hseen hspaced hfew => ?_⟩
      · obtain ⟨rfl, hrest⟩ := List.cons.inj hseen
        obtain ⟨hnow, hspaced⟩ := List.pairwise_cons.1 hspaced
        exact ((ih times).2 hrest hspaced (Nat.le_of_lt hfew)).expire hfew fun t ht =>
          hnow t (List.mem_of_head? ht)
      · cases times with
        | nil => cases hseen
        | cons now times =>
          obtain ⟨rfl, hrest⟩ := List.cons.inj hseen
          exact ((ih times).1 now hrest hspaced hfew).start now

/-- The next round disconnects the client if the rounds came to the allowance already. -/
theorem Probed.mem_expireProbes_iff (h : Probed past id (Awaiting times))
    (hfew : times.length ≤ allowance threshold) (hspaced : ∀ t ∈ times.head?, t + timeout ≤ now) :
    id ∈ ((after past).expireProbes now timeout threshold.toNat).1 ↔ times.length = allowance threshold := by
  obtain ⟨c, hc, hactive, hout, hmisses⟩ := h
  rw [Registry.mem_expireProbes_iff, hc]
  simp only [Option.some.injEq, exists_eq_left', expireProbe_out_iff, hactive, true_and]
  cases times with
  | nil =>
    have hnone : c.probes.outstanding = none := Option.map_eq_none_iff.1 hout
    have hpos := allowance_pos threshold
    simp only [hnone, reduceCtorEq, false_and, exists_false, List.length_nil, false_iff]
    omega
  | cons t rest =>
    obtain ⟨p, hp, rfl⟩ := Option.map_eq_some_iff.1 hout
    have hold : timeout ≤ Time.elapsed now p.sentAt := Nat.le_sub_of_add_le' (hspaced _ rfl)
    have hbelow : c.probes.misses < allowance threshold := by
      rw [hmisses]
      exact hfew
    have hcount : addCount c.probes.misses 1 = (p.sentAt :: rest).length := by
      rw [addCount_one hbelow, hmisses]
      rfl
    simp only [hp, Option.some.injEq, exists_eq_left', hold, true_and, hcount]
    exact ⟨Nat.le_antisymm hfew, Nat.le_of_eq ∘ Eq.symm⟩

/-! ## Every run -/

/-- In every run that gives old probes up by one timeout and one threshold, the counter of an active client is the
number of its probes that were given up since it was activated or a reply of it counted, and less than the
allowance. Giving old probes up disconnects exactly those active clients for which it comes to the allowance,
tells of them in ascending order, and leaves everybody else in the phase they are in. So a client of which a reply
counts in every stretch with as many misses as the allowance is never disconnected for its silence; and one that
was activated and then met nothing but probe rounds, the timeout apart, and never replied, is active after as many
of them as the allowance, and is disconnected by the next. -/
theorem disconnected_when_missed (hpast : ∀ op ∈ past, op.Uses timeout threshold) (id : Uuid) :
    let r := after past
    (∀ c, r.find? id = some c → c.phase = .active →
      c.probes.misses = missed id past ∧ c.probes.misses < allowance threshold) ∧
    (∀ now, let expired := r.expireProbes now timeout threshold.toNat
      expired.1.Pairwise (fun a b => rank a < rank b) ∧
      (id ∈ expired.1 ↔ r.isActive id = true ∧
        missed id (.expire now timeout threshold :: past) = allowance threshold) ∧
      (id ∈ expired.1 → expired.2.phase? id = some .disconnected) ∧
      (id ∉ expired.1 → expired.2.standing? id = r.standing? id)) ∧
    ((∀ newer stretch older, past = newer ++ stretch ++ older →
        allowance threshold ≤ expirations id older stretch → repliedIn id older stretch = true) →
      ∀ newer now older, past = newer ++ .expire now timeout threshold :: older →
        id ∉ ((after older).expireProbes now timeout threshold.toNat).1) ∧
    (∀ later op before times, past = later ++ op :: before → op.activates (after before) id = true →
      later.filter (fun a => a.concerns id) = rounds timeout threshold times →
      times.Pairwise (fun t s => s + timeout ≤ t) → times.length ≤ allowance threshold →
      r.isActive id = true ∧ ∀ now, (∀ t ∈ times.head?, t + timeout ≤ now) →
        (id ∈ (r.expireProbes now timeout threshold.toNat).1 ↔ times.length = allowance threshold)) := by
  intro r
  refine ⟨fun c hc hactive => ?_, fun now => ⟨ascending_expireProbes .., mem_expireProbes_after hpast now,
    expireProbes_verdict ..⟩, fun hreplies newer now older h => stays_with_replies hpast hreplies h, ?_⟩
  · obtain ⟨hmisses, hfew⟩ := counted_after hpast hc hactive
    exact ⟨hmisses, hfew⟩
  · rintro later op before times rfl hop hseen hspaced hfew
    have hprobed := (probed_silent hop later times).2 hseen hspaced hfew
    refine ⟨?_, fun now hnow => hprobed.mem_expireProbes_iff hfew hnow⟩
    obtain ⟨c, hc, hactive, -⟩ := hprobed
    exact isActive_iff_exists.2 ⟨c, hc, hactive⟩

/-- A client is let in and probed in two rounds, while another one comes and goes; the latest operation comes
first. -/
def twoRounds : List Operation :=
  [.start 20, .forget (.ofNat 2), .expire 20 10 2, .start 10, .greet (.ofNat 2) "other" 10, .expire 10 10 2,
    .signal (.ofNat 1) .pairingNotRequired 3, .signal (.ofNat 1) .helloAccepted 2, .greet (.ofNat 1) "guest" 1]

/-- With a threshold of two it is active after both rounds, and disconnected in the third one. -/
theorem third_round_disconnects : (∀ op ∈ twoRounds, op.Uses 10 2) ∧ missed (.ofNat 1) twoRounds = 1 ∧
    (after twoRounds).isActive (.ofNat 1) = true ∧
    .ofNat 1 ∈ ((after twoRounds).expireProbes 30 10 2).1 ∧
    ((after twoRounds).expireProbes 30 10 2).2.phase? (.ofNat 1) = some .disconnected := by
  have huses : ∀ op ∈ twoRounds, op.Uses 10 2 := by
    simp [twoRounds, Operation.Uses]
  have hmissed : missed (.ofNat 1) twoRounds = 1 := by
    decide +kernel
  obtain ⟨-, hverdict, -, hsilent⟩ := disconnected_when_missed huses (.ofNat 1)
  obtain ⟨hactive, hround⟩ := hsilent (twoRounds.take 6) (.signal (.ofNat 1) .pairingNotRequired 3)
    (twoRounds.drop 7) [20, 10] rfl (by decide +kernel) rfl (by decide) (by decide)
  obtain ⟨-, -, hgone, -⟩ := hverdict 30
  have hout := (hround 30 (by decide)).2 (by decide)
  exact ⟨huses, hmissed, hactive, hout, hgone hout⟩

end SharedDesk.Registry
