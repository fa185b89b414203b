import SharedDesk.Proofs.Registry.Run
import SharedDesk.Proofs.Table
import SharedDesk.Proofs.Telemetry.RateWindow
/-!
# What happens to the event counter of a client

A counter is opened with the record of its client, and started over when the client becomes active; at all other
times it takes in the buckets that it is handed, and nothing else happens to it (`Counting`). Every operation of
a registry does one of these three (`counting_operate`), and a flush hands every client's buckets over
(`find?_flush`).
-/

namespace SharedDesk

namespace RateWindow

/-- Empty buckets are passed over. -/
theorem takeAll_of_empty {buckets : List Bucket} (h : ∀ b ∈ buckets, b.count = 0) (w : RateWindow) :
    w.takeAll buckets = w := by
  induction buckets with
  | nil => rfl
  | cons b rest ih =>
    obtain ⟨hb, hrest⟩ := List.forall_mem_cons.1 h
    have hskip : w.takeAll (b :: rest) = w.takeAll rest := if_neg (Nat.not_lt.2 (Nat.le_of_eq hb))
    exact hskip.trans (ih hrest)

@[simp]
theorem advance_width (w : RateWindow) (now : Time) : (w.advance now).width = w.width := by
  unfold advance
  split <;> rfl

@[simp]
theorem takeAll_width (w : RateWindow) (buckets : List Bucket) : (w.takeAll buckets).width = w.width := by
  induction buckets with
  | nil => rfl
  | cons b rest ih =>
    rw [← ih]
    change ((w.takeAll rest).take b).width = (w.takeAll rest).width
    unfold take
    split
    · exact advance_width ..
    · rfl

@[simp]
theorem opening_width (now : Time) : (opening rateWidth now).width = rateWidth := rfl

theorem restart_eq_opening {w : RateWindow} (h : w.width = rateWidth) (now : Time) :
    w.restart now = opening rateWidth now := by
  rw [restart, h]
  rfl

end RateWindow

/-- What can happen to the event counter of a client in one step, which takes place at `now?`, hands the buckets
`taken` over, and in which the client has said hello if `anew`. -/
inductive Counting (now? : Option Time) (taken : List Bucket) (anew : Prop) : Option Client → Client → Prop
  | opened {c now} : now? = some now → c.events = .opening rateWidth now → Counting now? taken anew none c
  | restarted {c c' now} : now? = some now → c'.phase = .active → (c.phase = .active → anew) →
      c'.events = c.events.restart now → Counting now? taken anew (some c) c'
  | kept {c c'} : (c'.phase = .active → c.phase = .active ∧ ¬ anew) → c'.events = c.events.takeAll taken →
      Counting now? taken anew (some c) c'

namespace Counting

variable {now? : Option Time} {taken : List Bucket} {anew : Prop} {c? : Option Client} {c c' : Client}
  {now : Time}

theorem width (h : Counting now? taken anew c? c') (hwidth : ∀ c, c? = some c → c.events.width = rateWidth) :
    c'.events.width = rateWidth := by
  cases h with
  | opened _ hevents => rw [hevents, RateWindow.opening_width]
  | restarted _ _ _ hevents =>
    rw [hevents]
    exact hwidth _ rfl
  | kept _ hevents =>
    rw [hevents, RateWindow.takeAll_width]
    exact hwidth _ rfl

/-- Whoever becomes active starts with an empty counter. -/
theorem of_entry (h : Counting now? taken anew c? c') (hwidth : ∀ c, c? = some c → c.events.width = rateWidth)
    (hactive : c'.phase = .active) (hnew : (∀ c, c? = some c → c.phase ≠ .active) ∨ anew) :
    ∃ now, now? = some now ∧ c'.events = .opening rateWidth now := by
  cases h with
  | @opened _ now hnow hevents => exact ⟨now, hnow, hevents⟩
  | @restarted c _ now hnow _ _ hevents =>
    refine ⟨now, hnow, ?_⟩
    rw [hevents, RateWindow.restart_eq_opening (hwidth c rfl)]
  | @kept c _ hbefore _ =>
    obtain ⟨hactive, hnot⟩ := hbefore hactive
    rcases hnew with hidle | hanew
    · exact absurd hactive (hidle c rfl)
    · exact absurd hanew hnot

/-- The counter of a client that does not become active takes in what it is handed. -/
theorem of_no_entry (h : Counting now? taken anew (some c) c')
    (hbefore : c'.phase = .active → c.phase = .active ∧ ¬ anew) : c'.events = c.events.takeAll taken := by
  cases h with
  | restarted _ hactive hanew _ =>
    obtain ⟨hwas, hnot⟩ := hbefore hactive
    exact absurd (hanew hwas) hnot
  | kept _ hevents => exact hevents

theorem of_same (hphase : c'.phase = c.phase) (hevents : c'.events = c.events) (hnot : ¬ anew) :
    Counting now? [] anew (some c) c' :=
  .kept (fun hactive => ⟨hphase ▸ hactive, hnot⟩) hevents

/-- Of all moves only an activation does something to the counter. -/
theorem of_enter (hphase : c'.phase = c.phase) (hevents : c'.events = c.events) (p : Phase)
    (hnow : now? = some now) (hnot : ¬ anew) : Counting now? [] anew (some c) (c'.enter p now) := by
  by_cases hnew : p = .active ∧ c.phase ≠ .active
  · refine .restarted hnow hnew.1 (fun hactive => absurd hactive hnew.2) ?_
    rw [← hevents]
    exact if_pos (hphase ▸ hnew)
  · refine .kept (fun hactive => ⟨?_, hnot⟩) ?_
    · by_contra hidle
      exact hnew ⟨hactive, hidle⟩
    · rw [← hevents]
      exact if_neg (hphase ▸ hnew)

theorem of_greetAgain (c : Client) (name : String) (now : Time) (hnow : now? = some now) (hnot : ¬ anew) :
    Counting now? [] anew (some c) (c.greetAgain name now) := by
  unfold Client.greetAgain
  split
  · exact of_same rfl rfl hnot
  · refine of_enter ?_ ?_ .connecting hnow hnot <;> rfl

/-- Sending a probe changes neither phase nor counter. -/
theorem then_probe (h : Counting now? taken anew c? c) (now : Time) :
    Counting now? taken anew c? (((c.probe? now).map Prod.snd).getD c) := by
  have hsame : ∀ c' : Client, c'.phase = c.phase → c'.events = c.events → Counting now? taken anew c? c' := by
    intro c' hphase hevents
    cases h with
    | opened hnow hopened => exact .opened hnow (hevents.trans hopened)
    | restarted hnow hactive hanew hrestarted =>
      exact .restarted hnow (hphase.trans hactive) hanew (hevents.trans hrestarted)
    | kept hbefore hkept => exact .kept (fun hactive => hbefore (hphase ▸ hactive)) (hevents.trans hkept)
  unfold Client.probe?
  split
  · cases c.probes.send? now <;> exact hsame _ rfl rfl
  · exact h

/-- Whoever says hello starts with an empty counter when that makes it active. -/
theorem of_hello {g : Client} (hidle : g.phase ≠ .active)
    (hevents : g.events = (c?.map Client.events).getD (.opening rateWidth now)) (p : Phase) :
    Counting (some now) [] True c? (g.enter p now) := by
  have henter : (g.enter p now).events =
      if p = .active ∧ g.phase ≠ .active then g.events.restart now else g.events := rfl
  cases c? with
  | none =>
    refine .opened rfl ?_
    rw [henter, hevents]
    split <;> rfl
  | some c =>
    by_cases hactive : p = .active
    · refine .restarted rfl hactive (fun _ => trivial) ?_
      rw [henter, if_pos ⟨hactive, hidle⟩, hevents]
      rfl
    · refine .kept (fun h => absurd h hactive) ?_
      rw [henter, if_neg fun h => hactive h.1, hevents]
      rfl

theorem of_expireProbe (c : Client) (timeout : Duration) (threshold : Nat) (hnow : now? = some now)
    (hnot : ¬ anew) : Counting now? [] anew (some c) (c.expireProbe now timeout threshold).1 := by
  unfold Client.expireProbe
  split
  · split
    · exact of_same rfl rfl hnot
    · rename_i probes hexpire
      dsimp only
      split
      · refine of_enter ?_ ?_ .disconnected hnow hnot <;> rfl
      · exact of_same rfl rfl hnot
  · exact of_same rfl rfl hnot

theorem of_answer (c : Client) (number : UInt64) (now : Time) (hnot : ¬ anew) :
    Counting now? [] anew (some c) (((c.answer? number now).map Prod.snd).getD c) := by
  unfold Client.answer?
  cases c.probes.answer? number now <;> exact of_same rfl rfl hnot

theorem of_timeOut (c : Client) (timeouts : SweepTimeouts) (hnow : now? = some now) (hnot : ¬ anew) :
    Counting now? [] anew (some c) ((c.timeOut? now timeouts).getD c) := by
  rw [Client.timeOut?_eq]
  split
  · exact of_enter rfl rfl .disconnected hnow hnot
  · exact of_same rfl rfl hnot

end Counting

namespace Registry

variable {r : Registry} {id : Uuid} {c c' : Client} {op : Operation} {past : List Operation}

namespace Operation

/-- When an operation takes place, if it asks the clock. -/
def time? : Operation → Option Time
  | greet _ _ now | register _ _ now | signal _ _ now | start now | expire now _ _ | reply _ _ now
  | measure _ _ _ now | sweep now _ _ => some now
  | forget _ => none

/-- The events that an operation reports for a client. -/
def reported (id : Uuid) : Operation → List Bucket
  | measure j _ count now => if id = j then [⟨now, count⟩] else []
  | _ => []

theorem reported_of_ne {op : Operation} {id j : Uuid} (h : op.client? = some j) (hid : id ≠ j) :
    op.reported id = [] := by
  cases op with
  | measure i roundTrip count now =>
    cases h
    exact if_neg hid
  | _ => rfl

end Operation

/-- What an operation does to the counter of a client is one of the three. -/
theorem counting_operate (h : (r.operate op).find? id = some c') :
    Counting op.time? (op.reported id) False (r.find? id) c' := by
  cases hc : r.find? id with
  | none => cases created_operate hc h <;> exact .opened rfl rfl
  | some c =>
    cases revises_operate hc h with
    | other hnamed hid =>
      rw [Operation.reported_of_ne hnamed hid]
      exact .of_same rfl rfl not_false
    | registered => exact .of_same rfl rfl not_false
    | greeted => exact .of_greetAgain _ _ _ rfl not_false
    | @signalled s now =>
      cases hfollow : c.follow s now with
      | error move => exact .of_same rfl rfl not_false
      | ok c' =>
        obtain ⟨p, -, rfl⟩ := Client.follow_eq_ok_iff.1 hfollow
        exact .of_enter rfl rfl p rfl not_false
    | probed => exact .then_probe (.of_same rfl rfl not_false) _
    | expired => exact .of_expireProbe _ _ _ rfl not_false
    | replied => exact .of_answer _ _ _ not_false
    | measured =>
      rw [Operation.reported, if_pos rfl]
      exact .kept (fun hactive => ⟨hactive, not_false⟩) rfl
    | swept => exact .of_timeOut _ _ rfl not_false

/-! ## Flushing -/

/-- The record of a client after buckets were handed over. -/
def handed (c : Client) (buckets : List Bucket) : Client := { c with events := c.events.takeAll buckets }

theorem find?_flushClient (r : Registry) (j : Uuid) (buckets : List Bucket) (id : Uuid) :
    (Router.flushClient r j buckets).find? id =
      if id = j then (r.find? id).map fun c => handed c buckets else r.find? id := by
  induction buckets with
  | nil =>
    have hsame : (r.find? id).map (fun c => handed c []) = r.find? id := Option.map_id' ..
    rw [hsame, ite_self]
    rfl
  | cons b rest ih =>
    have hmeasured : (Router.flushClient r j (b :: rest)).find? id =
        if id = j then ((Router.flushClient r j rest).find? id).map fun c => c.measure none b.count b.start
        else (Router.flushClient r j rest).find? id := by
      refine find?_one _ (fun hnone => ?_) (fun c hc => ?_) id
      · rw [Router.flushClient, List.foldr_cons, ← Router.flushClient, measure, hnone]
      · rw [Router.flushClient, List.foldr_cons, ← Router.flushClient, measure, hc]
    rw [hmeasured, ih]
    split
    · rw [Option.map_map]
      rfl
    · rfl

/-- A flush hands every client's buckets over. -/
theorem find?_flush (q : Router) (r : Registry) (id : Uuid) :
    (q.flush r).2.find? id = (r.find? id).map fun c => handed c ((q.pending.find? id).getD []) := by
  have hrows : ∀ (rows : List (Uuid × List Bucket)) (r : Registry), (rows.map Prod.fst).Nodup →
      (rows.foldl (fun r row => Router.flushClient r row.1 row.2) r).find? id = (r.find? id).map fun c =>
        handed c (((rows.find? fun row => Ranked.rank row.1 == Ranked.rank id).map Prod.snd).getD []) := by
    intro rows
    induction rows with
    | nil =>
      intro r _
      exact (Option.map_id' ..).symm
    | cons row rest ih =>
      intro r hnodup
      obtain ⟨hout, hnodup⟩ := List.nodup_cons.1 hnodup
      rw [List.foldl_cons, ih _ hnodup, find?_flushClient, List.find?_cons]
      by_cases hid : id = row.1
      · -- No later row is about this client.
        have hnone : (rest.find? fun row => Ranked.rank row.1 == Ranked.rank id) = none := by
          rw [List.find?_eq_none]
          intro row' hrow' hrank
          rw [beq_iff_eq] at hrank
          have heq : row'.1 = row.1 := hid ▸ Ranked.rank_inj hrank
          exact hout (heq ▸ List.mem_map_of_mem hrow')
        rw [hnone, if_pos hid, hid, beq_self_eq_true, Option.map_map]
        rfl
      · have hrank : (Ranked.rank row.1 == Ranked.rank id) = false :=
          beq_eq_false_iff_ne.2 fun heq => hid (Ranked.rank_inj heq).symm
        rw [if_neg hid, hrank]
  exact hrows q.pending.rows r q.pending.nodup_keys

end Registry

end SharedDesk
