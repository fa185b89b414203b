import SharedDesk.Liveness
import SharedDesk.Proofs.Registry.Misses
/-!
# What a probe round tells

A round sends a probe to every active client that has none on its way. The queue takes as many as it has room for, in
the order of the clients, and refuses the others (`deliver_throughQueue`); a client whose probe was refused waits for an
answer all the same. `accounted_run`: the report tells of every such client once, and after the round every active
client has a probe on its way.
-/

namespace SharedDesk

open Ranked (rank)

/-! ## Queues -/

namespace Channel

variable {α : Type}

/-- How many items more the queue takes. -/
def room (c : Channel α) : Nat := if c.isOpen then c.capacity - c.items.length else 0

/-- The queue with items behind its own. -/
def extend (c : Channel α) (as : List α) : Channel α := { c with items := c.items ++ as }

theorem extend_nil (c : Channel α) : c.extend [] = c := by rw [extend, List.append_nil]

theorem extend_extend (c : Channel α) (as bs : List α) : (c.extend as).extend bs = c.extend (as ++ bs) := by
  simp [extend]

theorem room_extend (c : Channel α) (as : List α) : (c.extend as).room = c.room - as.length := by
  simp only [room, extend, List.length_append]
  split <;> omega

theorem push_of_room {c : Channel α} (h : 0 < c.room) (a : α) : c.push a = .ok (c.extend [a]) := by
  unfold room at h
  split at h
  · rename_i hopen
    have hfree : ¬ c.capacity ≤ c.items.length := by omega
    simp [push, hopen, hfree, extend]
  · exact absurd h (Nat.lt_irrefl 0)

theorem push_of_no_room {c : Channel α} (h : c.room = 0) (a : α) : ∃ fault, c.push a = .error fault := by
  unfold room at h
  unfold push
  split at h
  · rename_i hopen
    exact ⟨.full, by rw [hopen, if_neg (by decide), if_pos (by omega)]⟩
  · rename_i hclosed
    exact ⟨.closed, by rw [if_pos (by simpa using hclosed)]⟩

end Channel

namespace ProbeRound

/-- The queue takes as many requests as it has room for, in their order, and the others are reported. -/
theorem deliver_throughQueue (queue : Channel ProbeRequest) (requests : List ProbeRequest) :
    deliver throughQueue queue requests = (requests.take queue.room,
      (requests.drop queue.room).map Prod.fst, queue.extend (requests.take queue.room)) := by
  induction requests generalizing queue with
  | nil => simp [deliver, Channel.extend_nil]
  | cons request rest ih =>
    rw [deliver]
    rcases Nat.eq_zero_or_pos queue.room with hfull | hroom
    · obtain ⟨fault, hpush⟩ := Channel.push_of_no_room hfull request
      have hsend : throughQueue queue request = (false, queue) := by rw [throughQueue, hpush]
      rw [hsend]
      simp [ih, hfull]
    · have hsend : throughQueue queue request = (true, queue.extend [request]) := by
        rw [throughQueue, Channel.push_of_room hroom]
      obtain ⟨n, hn⟩ := Nat.exists_eq_add_one_of_ne_zero (Nat.ne_of_gt hroom)
      rw [hsend]
      simp [ih, Channel.room_extend, Channel.extend_extend, hn]

end ProbeRound

/-! ## Sending probes, and giving them up -/

namespace Client

variable {c : Client} {now : Time}

/-- A probe is due: the client is active and none is on its way. -/
def IsDue (c : Client) : Prop := c.phase = .active ∧ c.probes.outstanding = none

instance : Decidable c.IsDue := inferInstanceAs (Decidable (_ ∧ _))

/-- The client after a probe was sent to it. -/
def probed (c : Client) (now : Time) : Client :=
  { c with
    probes := { c.probes with next := c.probes.next + 1, outstanding := some ⟨c.probes.next, now⟩ }
    pingedAt := some now }

/-- The client after the probe on its way was given up. -/
def missing (c : Client) : Client :=
  { c with probes := { c.probes with outstanding := none, misses := addCount c.probes.misses 1 } }

theorem probe?_eq (c : Client) (now : Time) :
    c.probe? now = if c.IsDue then some (c.probes.next, c.probed now) else none := by
  by_cases hdue : c.IsDue
  · rw [if_pos hdue, probe?, if_pos hdue.1, ProbeTracker.send?, hdue.2]
    rfl
  · rw [if_neg hdue, probe?]
    split
    · rename_i hactive
      obtain ⟨p, hout⟩ := Option.ne_none_iff_exists'.1 fun hnone => hdue ⟨hactive, hnone⟩
      rw [ProbeTracker.send?, hout]
      rfl
    · rfl

/-- A probe on its way is given up once it is as old as the timeout, which is one miss more. -/
theorem expireProbe_eq {p : Probe} (hactive : c.phase = .active) (hout : c.probes.outstanding = some p)
    (now : Time) (timeout : Duration) (threshold : Nat) : c.expireProbe now timeout threshold =
      if timeout ≤ Time.elapsed now p.sentAt then
        if max threshold 1 ≤ c.missing.probes.misses then (c.missing.enter .disconnected now, true)
        else (c.missing, false)
      else (c, false) := by
  rw [expireProbe, if_pos hactive, ProbeTracker.expire?, hout]
  by_cases hold : timeout ≤ Time.elapsed now p.sentAt
  · simp only [if_pos hold]
    rfl
  · simp only [if_neg hold]

end Client

namespace Registry

variable {r : Registry} {id : Uuid} {c : Client} {now : Time} {number : UInt64}

theorem find?_startProbes_eq (r : Registry) (now : Time) (id : Uuid) : (r.startProbes now).2.find? id =
    (r.find? id).map fun c => if c.IsDue then c.probed now else c := by
  rw [find?_startProbes]
  refine congrArg (Option.map · (r.find? id)) (funext fun c => ?_)
  rw [Client.probe?_eq]
  split <;> rfl

theorem mem_startProbes_iff_due : (id, number) ∈ (r.startProbes now).1 ↔
    ∃ c, r.find? id = some c ∧ c.IsDue ∧ number = c.probes.next := by
  rw [mem_startProbes_iff]
  simp only [Client.probe?_eq]
  constructor
  · rintro ⟨c, c', hc, hsend⟩
    split at hsend
    · rename_i hdue
      cases hsend
      exact ⟨c, hc, hdue, rfl⟩
    · cases hsend
  · rintro ⟨c, hc, hdue, rfl⟩
    exact ⟨c, c.probed now, hc, if_pos hdue⟩

theorem mem_map_startProbes_iff : id ∈ (r.startProbes now).1.map Prod.fst ↔ ∃ c, r.find? id = some c ∧ c.IsDue := by
  rw [List.mem_map]
  constructor
  · rintro ⟨⟨_, number⟩, hmem, rfl⟩
    obtain ⟨c, hc, hdue, -⟩ := mem_startProbes_iff_due.1 hmem
    exact ⟨c, hc, hdue⟩
  · rintro ⟨c, hc, hdue⟩
    exact ⟨(id, c.probes.next), mem_startProbes_iff_due.2 ⟨c, hc, hdue, rfl⟩, rfl⟩

theorem ascending_startProbes (r : Registry) (now : Time) :
    ((r.startProbes now).1.map Prod.fst).Pairwise fun a b => rank a < rank b := by
  refine List.pairwise_map.2 (r.clients.ascending.filterMap _ fun row row' hlt request hrequest request' hrequest' => ?_)
  obtain ⟨_, -, rfl⟩ := Option.map_eq_some_iff.1 hrequest
  obtain ⟨_, -, rfl⟩ := Option.map_eq_some_iff.1 hrequest'
  exact hlt

/-- Giving old probes up counts a miss of the client with the record `c`: it has one miss more, or so many that it is
disconnected. -/
def CountsMiss (r : Registry) (id : Uuid) (c : Client) (now : Time) (timeout : Duration) (threshold : Nat) : Prop :=
  let expired := r.expireProbes now timeout threshold
  if max threshold 1 ≤ addCount c.probes.misses 1 then id ∈ expired.1 ∧ expired.2.phase? id = some .disconnected
  else id ∉ expired.1 ∧ expired.2.find? id = some c.missing

theorem expireProbes_of_outstanding {p : Probe} (hc : r.find? id = some c) (hactive : c.phase = .active)
    (hout : c.probes.outstanding = some p) (now : Time) (timeout : Duration) (threshold : Nat) :
    (Time.elapsed now p.sentAt < timeout → id ∉ (r.expireProbes now timeout threshold).1 ∧
      (r.expireProbes now timeout threshold).2.find? id = some c) ∧
    (timeout ≤ Time.elapsed now p.sentAt → r.CountsMiss id c now timeout threshold) := by
  have hexpire := Client.expireProbe_eq hactive hout now timeout threshold
  have hmisses : c.missing.probes.misses = addCount c.probes.misses 1 := rfl
  simp only [CountsMiss, mem_expireProbes_iff, phase?, find?_expireProbes, hc, Option.some.injEq, exists_eq_left',
    Option.map_some]
  constructor
  · intro hyoung
    rw [hexpire, if_neg (Nat.not_le.2 hyoung)]
    exact ⟨Bool.false_ne_true, rfl⟩
  · intro hold
    rw [hexpire, if_pos hold, hmisses]
    split
    · exact ⟨rfl, rfl⟩
    · exact ⟨Bool.false_ne_true, rfl⟩

end Registry

namespace ProbeRound

/-! ## The report -/

/-- What a round tells and leaves behind, where `expired` is the registry once old probes were given up. -/
structure Accounted (queue : Channel ProbeRequest) (expired : Registry) (now : Time) (round : ProbeRound)
    (r' : Registry) (queue' : Channel ProbeRequest) : Prop where
  /-- The clients to which a probe is due are told of, as sent or as failed. -/
  told : ∀ id, id ∈ round.sent.map Prod.fst ++ round.failed ↔ ∃ c, expired.find? id = some c ∧ c.IsDue
  /-- They come in ascending order, so the first ones are sent and each of them is told of once. -/
  ascending : (round.sent.map Prod.fst ++ round.failed).Pairwise fun a b => rank a < rank b
  /-- As many are sent as there is room for. -/
  room : round.sent.length = min queue.room (round.sent.length + round.failed.length)
  /-- What is sent goes behind what was in the queue. -/
  queued : queue' = queue.extend round.sent
  /-- No client is told of twice, as disconnected or otherwise. -/
  disjoint : (round.sent.map Prod.fst ++ round.failed ++ round.disconnected).Nodup
  /-- A probe that was due is on its way, sent or not, and nothing else has changed. -/
  records : ∀ id, r'.find? id = (expired.find? id).map fun c => if c.IsDue then c.probed now else c
  /-- Every active client has a probe on its way, under the number that was sent to it now if there is one. -/
  awaiting : ∀ id c', r'.find? id = some c' → c'.phase = .active → ∃ p, c'.probes.outstanding = some p ∧
    ∀ number, (id, number) ∈ round.sent → p = ⟨number, now⟩
  /-- One that was refused is counted as a miss as soon as its timeout has passed, and not before. -/
  missed : ∀ id ∈ round.failed, ∃ c', r'.find? id = some c' ∧ ∀ later timeout threshold,
    (Time.elapsed later now < timeout → id ∉ (r'.expireProbes later timeout threshold).1 ∧
      (r'.expireProbes later timeout threshold).2.find? id = some c') ∧
    (timeout ≤ Time.elapsed later now → r'.CountsMiss id c' later timeout threshold)

/-- Sending what is due after `disconnected` were disconnected. -/
theorem accounted_startProbes (queue : Channel ProbeRequest) {expired : Registry} (now : Time) {disconnected : List Uuid}
    (honce : disconnected.Nodup) (hgone : ∀ id ∈ disconnected, expired.phase? id = some .disconnected) :
    let requests := (expired.startProbes now).1
    Accounted queue expired now
      ⟨requests.take queue.room, (requests.drop queue.room).map Prod.fst, disconnected⟩
      (expired.startProbes now).2 (queue.extend (requests.take queue.room)) := by
  intro requests
  have hclients : (requests.take queue.room).map Prod.fst ++ (requests.drop queue.room).map Prod.fst =
      requests.map Prod.fst := by rw [← List.map_append, List.take_append_drop]
  have hascending : (requests.map Prod.fst).Pairwise fun a b => rank a < rank b :=
    Registry.ascending_startProbes expired now
  have hdue : ∀ id, id ∈ requests.map Prod.fst ↔ ∃ c, expired.find? id = some c ∧ c.IsDue := fun _ =>
    Registry.mem_map_startProbes_iff
  have hrecords := Registry.find?_startProbes_eq expired now
  constructor
  case told =>
    dsimp only
    rwa [hclients]
  case ascending =>
    dsimp only
    rwa [hclients]
  case room =>
    dsimp only
    rw [List.length_map, List.length_take, List.length_drop]
    omega
  case queued => rfl
  case disjoint =>
    dsimp only
    rw [hclients, List.nodup_append]
    refine ⟨hascending.imp fun hlt heq => Nat.ne_of_lt hlt (congrArg rank heq), honce, fun id hid j hj heq => ?_⟩
    obtain ⟨c, hc, hactive, -⟩ := (hdue id).1 hid
    obtain ⟨c', hc', hidle⟩ := Registry.phase?_eq_some_iff.1 (hgone j hj)
    rw [← heq, hc] at hc'
    cases hc'
    cases hactive.symm.trans hidle
  case records => exact hrecords
  case awaiting =>
    intro id c' hc' hactive
    rw [hrecords] at hc'
    obtain ⟨c, hc, hsent⟩ := Option.map_eq_some_iff.1 hc'
    have hnumber : ∀ number, (id, number) ∈ requests.take queue.room → c.IsDue ∧ number = c.probes.next := by
      intro number hmem
      obtain ⟨c₁, hc₁, hmatch⟩ := Registry.mem_startProbes_iff_due.1 (List.mem_of_mem_take hmem)
      cases hc.symm.trans hc₁
      exact hmatch
    split at hsent
    · subst hsent
      exact ⟨⟨c.probes.next, now⟩, rfl, fun number hmem => by rw [(hnumber number hmem).2]⟩
    · rename_i hnot
      subst hsent
      obtain ⟨p, hp⟩ := Option.ne_none_iff_exists'.1 fun hnone => hnot ⟨hactive, hnone⟩
      exact ⟨p, hp, fun number hmem => absurd (hnumber number hmem).1 hnot⟩
  case missed =>
    intro id hid
    obtain ⟨c, hc, hisDue⟩ := (hdue id).1 (by rw [← hclients]; exact List.mem_append_right _ hid)
    have hrecord : (expired.startProbes now).2.find? id = some (c.probed now) := by
      rw [hrecords, hc, Option.map_some, if_pos hisDue]
    have hactive : (c.probed now).phase = .active := hisDue.1
    have hout : (c.probed now).probes.outstanding = some ⟨c.probes.next, now⟩ := rfl
    exact ⟨c.probed now, hrecord, Registry.expireProbes_of_outstanding hrecord hactive hout⟩

/-- A round tells of every active client without a probe on its way once, in ascending order: those that the queue has
room for are sent, the others failed. None of them is among the disconnected ones, and afterwards every active client
has a probe on its way, which is a miss in the end if the queue refused it. -/
theorem accounted_run (queue : Channel ProbeRequest) (r : Registry) (settings : LivenessSettings) (now : Time) :
    let expired := r.expireProbes now settings.probeTimeout settings.missThreshold
    let out := run throughQueue queue r settings now
    out.1.disconnected = expired.1 ∧ Accounted queue expired.2 now out.1 out.2.1 out.2.2 := by
  intro expired
  have honce : expired.1.Nodup := (Registry.ascending_expireProbes r now _ _).imp fun hlt heq =>
    Nat.ne_of_lt hlt (congrArg rank heq)
  have hgone : ∀ id ∈ expired.1, expired.2.phase? id = some .disconnected := fun id =>
    (Registry.expireProbes_verdict r id now _ _).1
  have hrun : run throughQueue queue r settings now =
      let requests := (expired.2.startProbes now).1
      (⟨requests.take queue.room, (requests.drop queue.room).map Prod.fst, expired.1⟩,
        (expired.2.startProbes now).2, queue.extend (requests.take queue.room)) := by
    simp only [run, deliver_throughQueue, expired]
  rw [hrun]
  exact ⟨rfl, accounted_startProbes queue now honce hgone⟩

end ProbeRound

end SharedDesk
