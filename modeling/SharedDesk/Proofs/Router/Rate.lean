import SharedDesk.Proofs.Registry.Counting
import SharedDesk.Proofs.Registry.Probing
import SharedDesk.Proofs.Router.Ledger
import SharedDesk.Proofs.Router.Routing
import Mathlib.Data.List.Infix
/-!
# The event rate of an active client

The counter of an active client and the buckets that wait for it are a `Ledger`: every event that is routed to
the client and every flush is a tick on it, and no other move touches it (`ledger_move`). So what the registry
reports is what comes out of a ledger that was opened when the client became active (`rate_exact`).
-/

namespace SharedDesk

/-- The counters of all clients count in windows of one second. -/
def Registry.Metered (r : Registry) : Prop := ∀ id c, r.find? id = some c → c.events.width = rateWidth

namespace Registry

variable {r : Registry}

theorem metered_empty : empty.Metered := nofun

theorem Metered.operate (h : r.Metered) (op : Operation) : (r.operate op).Metered := fun id _ hc =>
  (counting_operate hc).width (h id)

theorem Metered.flush (h : r.Metered) (q : Router) : (q.flush r).2.Metered := by
  intro id c' hc'
  rw [find?_flush] at hc'
  obtain ⟨c, hc, rfl⟩ := Option.map_eq_some_iff.1 hc'
  exact (RateWindow.takeAll_width ..).trans (h id c hc)

end Registry

/-- What is counted for a client, and what waits for it. -/
def Router.ledger (q : Router) (c : Client) (id : Uuid) : Ledger := ⟨c.events, q.bucketsOf id⟩

theorem Router.ledger_sent (q : Router) (target : Target) (now : Time) (c : Client) (id : Uuid) :
    (q.sent target now).ledger c id =
      (q.ledger c id).follow (if target = .client id then some (.event now) else none) := by
  rw [ledger, bucketsOf_sent]
  split <;> rfl

namespace Console

/-- What a move is to the ledger of a client. -/
def tick? (k : Console) (id : Uuid) : Move → Option Tick
  | .input i now => if (k.route i now).1 = .client id then some (.event now) else none
  | .flush => some .flush
  | _ => none

/-- The events that are routed to a client, and the flushes, the latest one first. -/
def ticks (k : Console) (id : Uuid) : List Move → List Tick
  | [] => []
  | m :: past => ((k.after past).tick? id m).toList ++ k.ticks id past

/-- A move that neither drops events of a client nor reports other ones. -/
def Move.Leaves (id : Uuid) : Move → Prop
  | .collect => False
  | .drop j => j ≠ id
  | .operate op => ∀ b ∈ op.reported id, b.count = 0
  | _ => True

variable {k : Console} {m : Move} {past : List Move} {id : Uuid} {c c' : Client}

theorem metered_move (h : k.registry.Metered) (m : Move) : (k.move m).registry.Metered := by
  cases m with
  | flush => exact h.flush k.router
  | operate op => exact h.operate op
  | share | input | drop | collect | replace | remove | prune => exact h

theorem metered_after (h : k.registry.Metered) (past : List Move) : (k.after past).registry.Metered := by
  induction past with
  | nil => exact h
  | cons m past ih => exact metered_move ih m

/-! ## One move -/

/-- While a client stays active, all that a move does to its ledger is a tick. -/
theorem ledger_move (hm : m.Leaves id) (hc : k.registry.find? id = some c) (hactive : c.phase = .active)
    (hc' : (k.move m).registry.find? id = some c') :
    (k.move m).router.ledger c' id = (k.router.ledger c id).follow (k.tick? id m) := by
  -- Most moves do not touch the record at all.
  have hsame : (k.move m).registry = k.registry → c' = c := by
    intro heq
    rw [heq, hc] at hc'
    exact (Option.some.inj hc').symm
  cases m with
  | input i now =>
    rw [hsame rfl, move, tick?, route_eq]
    exact Router.ledger_sent ..
  | flush =>
    rw [move, Registry.find?_flush, hc, Option.map_some] at hc'
    rw [← Option.some.inj hc']
    rfl
  | drop j =>
    rw [hsame rfl, move, Router.ledger, Router.bucketsOf_forget, if_neg (Ne.symm hm)]
    rfl
  | operate op =>
    have hcounting := Registry.counting_operate hc'
    rw [hc] at hcounting
    have hkept := hcounting.of_no_entry fun _ => ⟨hactive, not_false⟩
    rw [move, Router.ledger, hkept, RateWindow.takeAll_of_empty hm]
    rfl
  | collect => cases hm
  | share | replace | remove | prune =>
    rw [hsame rfl]
    rfl

/-! ## A run -/

theorem ledger_after {l : Ledger} (hk : ∃ c, k.registry.find? id = some c ∧ k.router.ledger c id = l)
    (hstays : ∀ past', past' <:+ past → (k.after past').registry.isActive id = true)
    (hleaves : ∀ m ∈ past, m.Leaves id) :
    ∃ c, (k.after past).registry.find? id = some c ∧
      (k.after past).router.ledger c id = l.after (k.ticks id past) := by
  induction past with
  | nil => exact hk
  | cons m past ih =>
    obtain ⟨hm, hleaves⟩ := List.forall_mem_cons.1 hleaves
    have hsuffix : past <:+ m :: past := List.suffix_cons m past
    obtain ⟨c, hc, hledger⟩ := ih (fun past' h => hstays past' (h.trans hsuffix)) hleaves
    obtain ⟨c₀, hc₀, hactive⟩ := Registry.isActive_iff_exists.1 (hstays past hsuffix)
    obtain rfl : c = c₀ := Option.some.inj (hc.symm.trans hc₀)
    obtain ⟨c', hc', -⟩ := Registry.isActive_iff_exists.1 (hstays _ List.suffix_rfl)
    refine ⟨c', hc', ?_⟩
    rw [ticks, Ledger.after_toList, ← hledger]
    exact ledger_move hm hc hactive hc'

/-- A client that has just become active has an empty counter. -/
theorem ledger_of_activation {op : Registry.Operation} {origin : Time} (hmetered : k.registry.Metered)
    (hin : op.activates k.registry id = true) (htime : op.time? = some origin)
    (hnone : k.router.bucketsOf id = []) :
    ∃ c, (k.move (.operate op)).registry.find? id = some c ∧
      (k.move (.operate op)).router.ledger c id = ⟨.opening rateWidth origin, []⟩ := by
  rw [Registry.Operation.activates, Bool.and_eq_true, Bool.not_eq_true'] at hin
  obtain ⟨hidle, hin⟩ := hin
  obtain ⟨c', hc', hactive⟩ := Registry.isActive_iff_exists.1 hin
  have hnew : ∀ c, k.registry.find? id = some c → c.phase ≠ .active := fun c hc =>
    (Registry.isActive_eq_false_iff hc).1 hidle
  obtain ⟨t, ht, hevents⟩ :=
    (Registry.counting_operate hc').of_entry (hmetered id) hactive (.inl hnew)
  obtain rfl : t = origin := Option.some.inj (ht.symm.trans htime)
  refine ⟨c', hc', ?_⟩
  rw [Router.ledger, hevents, ← hnone]
  rfl

/-- Let a client become active at `origin` while no events wait for it, and stay active. Whatever was routed and
flushed when, after a last flush the rate at a time is the number of those events, up to the ceiling, that are
published in the window before the one that holds it, windows being counted from `origin`. Every event routed to
the client is published once, under the start of its bucket: less than the length of a bucket before the event,
so in the window of the event or, if it comes in the first moments of a window, in the one before. -/
theorem rate_exact (width height : UInt32) (earlier later : List Move) (op : Registry.Operation) (id : Uuid)
    (origin now : Time) :
    let before := (opening width height).after earlier
    let entered := before.move (.operate op)
    let ticks := entered.ticks id later
    let window := windowIndex origin rateWidth
    op.activates before.registry id = true → op.time? = some origin → before.router.bucketsOf id = [] →
    (∀ past, past <:+ later → (entered.after past).registry.isActive id = true) →
    (∀ m ∈ later, m.Leaves id) →
    Tick.Ordered ticks →
    (∀ t ∈ Tick.times ticks, origin ≤ t ∧ t ≤ origin + Duration.ofSeconds countCeiling ∧ t ≤ now) →
    ((entered.after (.flush :: later)).registry.rate? id now =
      some (min ((Stamp.stamps ticks).countP fun s => window s.start + 1 = window now) countCeiling)) ∧
    (Stamp.stamps ticks).map Stamp.event = Tick.times ticks ∧
    ∀ s ∈ Stamp.stamps ticks, s.start ≤ s.event ∧ s.event < s.start + bucketWidth ∧
      (window s.start = window s.event ∨
        (window s.start + 1 = window s.event ∧ Time.elapsed s.event origin % rateWidth < bucketWidth)) := by
  intro before entered ticks window hin htime hnone hstays hleaves hordered htimes
  have hmetered : before.registry.Metered := metered_after Registry.metered_empty earlier
  obtain ⟨c, hc, hledger⟩ := ledger_after (ledger_of_activation hmetered hin htime hnone) hstays hleaves
  refine ⟨?_, Stamp.events_stamps ticks, ?_⟩
  · have hwidth : Duration.ofMillis 1 ≤ rateWidth := by decide
    have hrate := Ledger.rate_after (.flush :: ticks) origin now hwidth hordered (fun t ht => (htimes t ht).2.2)
      fun t ht => ?_
    · rw [Stamp.published_flush, Ledger.after, ← hledger] at hrate
      rw [← hrate, Registry.rate?, after, move, Registry.find?_flush, hc, Option.map_some, Option.map_some]
      rfl
    · rw [Nat.mul_comm]
      exact (htimes t ht).2.1
  · intro s hs
    obtain ⟨hle, hlt⟩ := Stamp.in_bucket hordered hs
    exact ⟨hle, hlt, Stamp.published_window hordered (fun t ht => (htimes t ht).1) hs⟩

/-- Two events of one bucket on both sides of a second after the entry, and one more after a flush. -/
def aroundTheSecond : List Move :=
  [.input .other 1005000003, .flush, .input .other 1004000003, .input (.pointer (-10) 10) 999000003]

/-- The second event is published in the window before its own, and the third one is not. -/
theorem two_in_first_second :
    let before := (opening 1920 1080).after guestAtDoor
    let entered := before.move (.operate (.signal (.ofNat 1) .pairingNotRequired 3))
    Stamp.stamps (entered.ticks (.ofNat 1) aroundTheSecond) =
      [⟨1005000003, 1005000003⟩, ⟨1004000003, 999000003⟩, ⟨999000003, 999000003⟩] ∧
    (entered.after (.flush :: aroundTheSecond)).registry.rate? (.ofNat 1) 1500000003 = some 2 := by
  intro before entered
  have hticks : entered.ticks (.ofNat 1) aroundTheSecond =
      [.event 1005000003, .flush, .event 1004000003, .event 999000003] := by
    decide +kernel
  have hstays : ∀ past ∈ aroundTheSecond.tails, (entered.after past).registry.isActive (.ofNat 1) = true := by
    decide +kernel
  have hleaves : ∀ m ∈ aroundTheSecond, m.Leaves (.ofNat 1) := by
    simp [aroundTheSecond, Move.Leaves]
  have hordered : Tick.Ordered (entered.ticks (.ofNat 1) aroundTheSecond) := by
    rw [hticks, Tick.Ordered]
    decide
  have htimes : ∀ t ∈ Tick.times (entered.ticks (.ofNat 1) aroundTheSecond),
      3 ≤ t ∧ t ≤ 3 + Duration.ofSeconds countCeiling ∧ t ≤ 1500000003 := by
    rw [hticks]
    decide
  have hstamps : Stamp.stamps (entered.ticks (.ofNat 1) aroundTheSecond) =
      [⟨1005000003, 1005000003⟩, ⟨1004000003, 999000003⟩, ⟨999000003, 999000003⟩] := by
    rw [hticks]
    decide
  obtain ⟨hrate, -⟩ := rate_exact 1920 1080 guestAtDoor aroundTheSecond
    (.signal (.ofNat 1) .pairingNotRequired 3) (.ofNat 1) 3 1500000003 (by decide +kernel) rfl
    (by decide +kernel) (fun past hpast => hstays past ((List.mem_tails ..).2 hpast)) hleaves hordered htimes
  refine ⟨hstamps, hrate.trans ?_⟩
  rw [show Stamp.stamps _ = _ from hstamps]
  decide

end Console

end SharedDesk
