import SharedDesk.Proofs.Desk.Entry
import SharedDesk.Proofs.Desk.Routing
import SharedDesk.Proofs.Router.Rate
/-!
# The event rate after an entry

When a client is brought in, its counter starts from zero; the buckets that wait for it in the router do not.
So what the desk reports from then on is what comes out of a ledger that was opened at the entry, with the
buckets that were waiting then (`rate_since_entry`). Where none were waiting, no event from before the entry
counts any more. Where some were, the next flush counts them all into the first window after the entry
(`old_event_counted`).
-/

namespace SharedDesk

namespace RateWindow

variable {w : RateWindow} {buckets : List Bucket} {origin now : Time}

/-- Buckets that start before the current window are counted into it. -/
theorem takeAll_early (h : ∀ b ∈ buckets, 0 < b.count ∧ b.start ≤ w.start) :
    w.takeAll buckets = { w with current := buckets.foldr (fun b n => addCount n b.count) w.current } := by
  induction buckets with
  | nil => rfl
  | cons b rest ih =>
    obtain ⟨⟨hcount, hstart⟩, hrest⟩ := List.forall_mem_cons.1 h
    have htake : w.takeAll (b :: rest) = (w.takeAll rest).record b.count b.start := if_pos hcount
    have hsince : ({ w with current := rest.foldr (fun b n => addCount n b.count) w.current } :
        RateWindow).windowsSince b.start = 0 := by
      simp [windowsSince, Time.elapsed, Nat.sub_eq_zero_of_le hstart]
    rw [htake, ih hrest, record, advance, hsince]
    rfl

/-- What a counter takes in from before it was opened is its rate in the second window. -/
theorem rate_of_early (h : ∀ b ∈ buckets, 0 < b.count ∧ b.start ≤ origin) (hfrom : origin + rateWidth ≤ now)
    (hto : now < origin + 2 * rateWidth) :
    ((opening rateWidth origin).takeAll buckets).rate now = Router.total buckets := by
  have hindex : Time.elapsed now origin / rateWidth = 1 := by
    refine Nat.div_eq_of_lt_le ?_ ?_
    · rw [Nat.one_mul]
      exact Nat.le_sub_of_add_le' hfrom
    · exact Nat.sub_lt_left_of_lt_add (Nat.le_trans (Nat.le_add_right ..) hfrom) hto
  have hsince : ((opening rateWidth origin).takeAll buckets).windowsSince now = 1 := by
    rw [takeAll_early h]
    change min (Time.elapsed now origin / rateWidth) countCeiling = 1
    rw [hindex]
    rfl
  rw [rate, hsince, takeAll_early h]
  rfl

end RateWindow

namespace Router

variable {buckets : List Bucket} {t now : Time}

theorem total_eq_zero_iff (h : ∀ b ∈ buckets, 0 < b.count ∧ b.start ≤ now) :
    total buckets = 0 ↔ buckets = [] := by
  cases buckets with
  | nil => exact ⟨fun _ => rfl, fun _ => rfl⟩
  | cons b rest =>
    obtain ⟨⟨hcount, -⟩, -⟩ := List.forall_mem_cons.1 h
    have hceiling : 0 < countCeiling := by decide
    have hpos : 0 < total (b :: rest) := by
      change 0 < min (total rest + b.count) countCeiling
      omega
    exact ⟨fun hzero => absurd hzero (Nat.ne_of_gt hpos), nofun⟩

theorem waiting_countInto (h : ∀ b ∈ buckets, 0 < b.count ∧ b.start ≤ now) (ht : t ≤ now) :
    ∀ b ∈ countInto buckets t, 0 < b.count ∧ b.start ≤ now := by
  have hopened : ∀ b ∈ (⟨t, 1⟩ : Bucket) :: buckets, 0 < b.count ∧ b.start ≤ now :=
    List.forall_mem_cons.2 ⟨⟨Nat.one_pos, ht⟩, h⟩
  cases buckets with
  | nil => exact hopened
  | cons b rest =>
    obtain ⟨⟨-, hstart⟩, hrest⟩ := List.forall_mem_cons.1 h
    have hceiling : 0 < countCeiling := by decide
    unfold countInto
    dsimp only
    split
    · refine List.forall_mem_cons.2 ⟨⟨?_, hstart⟩, hrest⟩
      change 0 < min (b.count + 1) countCeiling
      omega
    · exact hopened

end Router

/-- What takes place at the time that the past has come to, takes place in time. -/
theorem Timely.again {now : Time} {a : Act} {past : List Act} (h : Timely now past) (ha : a.time? = some now) :
    Timely now (a :: past) := by
  unfold Timely
  rw [List.filterMap_cons_some ha]
  refine List.pairwise_cons.2 ⟨?_, h⟩
  exact List.forall_mem_cons.2 ⟨Nat.le_refl _, (List.pairwise_cons.1 h).1⟩

namespace Desk

variable {d : Desk} {a : Act} {past since : List Act} {id : Uuid} {c c' : Client} {now : Time} {config : Config}
  {file : Option ConfigFile} {capacity : Nat} {opening : Time}

/-! ## Counters and buckets -/

theorem metered_knownClients (clients : List KnownClient) (now : Time) : (knownClients clients now).Metered := by
  have hall : ∀ (clients : List KnownClient) (r : Registry), r.Metered →
      (clients.foldl (fun r c => (r.register? c.id c.name now).getD r) r).Metered := by
    intro clients
    induction clients with
    | nil => exact fun r h => h
    | cons first rest ih => exact fun r h => ih _ (h.operate (.register first.id first.name now))
  exact hall clients .empty Registry.metered_empty

theorem metered_start (h : start config file capacity opening = .ok d) : d.registry.Metered := by
  unfold start at h
  split at h <;> cases h
  exact metered_knownClients config.clients opening

theorem metered_after (h : d.registry.Metered) (past : List Act) : (d.after past).registry.Metered := by
  induction past with
  | nil => exact h
  | cons a past ih => exact fun id c' hc' => (counting_act hc').width (ih id)

/-- What waits in the router was routed before. -/
theorem waiting_after (hidle : d.router = .idle) (ht : Timely now past) (id : Uuid) :
    ∀ b ∈ (d.after past).router.bucketsOf id, 0 < b.count ∧ b.start ≤ now := by
  induction past with
  | nil =>
    rw [after, hidle]
    intro b hb
    cases hb
  | cons a past ih =>
    have hbefore := ih ht.tail
    have hsent : ∀ target t, a.time? = some t → ∀ b ∈ ((d.after past).router.sent target t).bucketsOf id,
        0 < b.count ∧ b.start ≤ now := by
      intro target t hat
      rw [Router.bucketsOf_sent]
      split
      · exact Router.waiting_countInto hbefore (ht.head hat).1
      · exact hbefore
    rw [after, router_act]
    cases a with
    | point x y t => exact hsent _ t rfl
    | focus t => exact hsent _ t rfl
    | forget text =>
      rw [rerouted]
      split
      · split
        · rw [Router.bucketsOf_forget]
          split
          · intro b hb
            cases hb
          · exact hbefore
        · exact hbefore
      · exact hbefore
    | flush | collect =>
      intro b hb
      cases hb
    | _ => exact hbefore

/-! ## A run -/

/-- What an act is to the ledger of a client. -/
def tick? (d : Desk) (id : Uuid) : Act → Option Tick
  | .point x y now => if (d.routePointer x y now).1 = .client id then some (.event now) else none
  | .focus now => if (d.routeFocused now).1 = .client id then some (.event now) else none
  | .flush => some .flush
  | _ => none

/-- The events that are routed to a client, and the flushes, the latest one first. -/
def ticks (d : Desk) (id : Uuid) : List Act → List Tick
  | [] => []
  | a :: past => ((d.after past).tick? id a).toList ++ d.ticks id past

/-- While a client is not brought in anew, all that an act does to its ledger is a tick, as long as no counts are
taken out. -/
theorem ledger_act (ha : a ≠ .collect) (hc : d.registry.find? id = some c)
    (hc' : (d.act a).registry.find? id = some c')
    (hno : c'.phase = .active → c.phase = .active ∧ ¬ a.Greets d id) :
    (d.act a).router.ledger c' id = (d.router.ledger c id).follow (d.tick? id a) := by
  have hcounting := counting_act hc'
  rw [hc] at hcounting
  rw [Router.ledger, hcounting.of_no_entry hno, router_act]
  cases a with
  | point x y now | focus now => exact Router.ledger_sent ..
  | forget text =>
    have hkept : (d.rerouted (.forget text)).bucketsOf id = d.router.bucketsOf id := by
      rw [rerouted]
      cases hread : readClientId text with
      | error bad => rfl
      | ok j =>
        have hother : id ≠ j := by
          rintro rfl
          have hnone := find?_forgetClient hread d id
          rw [if_pos rfl] at hnone
          cases hnone.symm.trans hc'
        dsimp only
        split
        · rw [Router.bucketsOf_forget, if_neg hother]
        · rfl
    rw [hkept]
    rfl
  | collect => exact absurd rfl ha
  | _ => rfl

theorem ledger_after {l : Ledger} (hd : ∃ c, d.registry.find? id = some c ∧ d.router.ledger c id = l)
    (hknown : ∀ past, past <:+ since → (d.after past).registry.contains id = true)
    (hnone : ∀ a past, a :: past <:+ since → ¬ Enters d id a past) (hcollect : ∀ a ∈ since, a ≠ .collect) :
    ∃ c, (d.after since).registry.find? id = some c ∧
      (d.after since).router.ledger c id = l.after (d.ticks id since) := by
  induction since with
  | nil => exact hd
  | cons a since ih =>
    have hsuffix : since <:+ a :: since := List.suffix_cons ..
    obtain ⟨ha, hcollect⟩ := List.forall_mem_cons.1 hcollect
    obtain ⟨c, hc, hledger⟩ := ih (fun past h => hknown past (h.trans hsuffix))
      (fun b past h => hnone b past (h.trans hsuffix)) hcollect
    obtain ⟨c', hc'⟩ := Registry.contains_iff.1 (hknown _ List.suffix_rfl)
    refine ⟨c', hc', ?_⟩
    rw [ticks, Ledger.after_toList, ← hledger]
    refine ledger_act ha hc hc' fun hactive => ?_
    -- Whoever is active without an entry was active before, and has not said hello.
    have hno := hnone a since List.suffix_rfl
    have hafter : (d.after (a :: since)).registry.isActive id = true :=
      Registry.isActive_iff_exists.2 ⟨c', hc', hactive⟩
    refine ⟨?_, fun hgreets => hno ⟨hafter, .inr hgreets⟩⟩
    by_contra hidle
    exact hno ⟨hafter, .inl ((Registry.isActive_eq_false_iff hc).2 hidle)⟩

/-- Whoever is brought in has an empty counter. -/
theorem events_of_entry (hmetered : (d.after past).registry.Metered) (he : Enters d id a past) :
    ∃ c origin, (d.after (a :: past)).registry.find? id = some c ∧ a.time? = some origin ∧
      c.events = .opening rateWidth origin := by
  obtain ⟨hactive, hnew⟩ := he
  obtain ⟨c', hc', hphase⟩ := Registry.isActive_iff_exists.1 hactive
  have hnew' : (∀ c, (d.after past).registry.find? id = some c → c.phase ≠ .active) ∨
      a.Greets (d.after past) id :=
    hnew.imp_left fun hidle c hc => (Registry.isActive_eq_false_iff hc).1 hidle
  obtain ⟨origin, htime, hevents⟩ := (counting_act hc').of_entry (hmetered id) hphase hnew'
  exact ⟨c', origin, hc', htime, hevents⟩

/-- Let a client be brought in. As long as it stays known, is not brought in anew and no counts are taken out,
its rate is the one of a ledger that was opened at the entry and has seen nothing but the events since, and the
buckets that were waiting at the entry: from zero, if there were none. Buckets that were waiting are counted,
all of them, in the first window after the entry when a flush follows. -/
theorem rate_since_entry (h : start config file capacity opening = .ok d) (earlier since : List Act)
    (he : Enters d id a earlier) :
    let entered := d.after (a :: earlier)
    let waiting := entered.router.bucketsOf id
    ∃ origin, a.time? = some origin ∧
      ((∀ past, past <:+ since → (entered.after past).registry.contains id = true) →
        (∀ b past, b :: past <:+ since → ¬ Enters entered id b past) → (∀ b ∈ since, b ≠ .collect) →
        ∀ now, (entered.after since).registry.rate? id now =
          some ((Ledger.after ⟨.opening rateWidth origin, waiting⟩ (entered.ticks id since)).window.rate now)) ∧
      (Timely origin earlier → (waiting = [] ↔ Router.total waiting = 0) ∧
        ∀ now, origin + rateWidth ≤ now → now < origin + 2 * rateWidth →
          (entered.act .flush).registry.rate? id now = some (Router.total waiting)) := by
  intro entered waiting
  obtain ⟨c, origin, hc, htime, hevents⟩ := events_of_entry (metered_after (metered_start h) earlier) he
  refine ⟨origin, htime, ?_, ?_⟩
  · intro hknown hnone hcollect now
    have hledger : entered.router.ledger c id = ⟨.opening rateWidth origin, waiting⟩ := by
      rw [Router.ledger, hevents]
    obtain ⟨c', hc', hafter⟩ := ledger_after ⟨c, hc, hledger⟩ hknown hnone hcollect
    rw [Registry.rate?, hc', Option.map_some, ← hafter]
    rfl
  · intro ht
    have hwaiting : ∀ b ∈ waiting, 0 < b.count ∧ b.start ≤ origin :=
      waiting_after (router_start h) (ht.again htime) id
    refine ⟨(Router.total_eq_zero_iff hwaiting).symm, ?_⟩
    intro now hfrom hto
    have hflushed : (entered.act .flush).registry.find? id =
        (entered.registry.find? id).map fun c => Registry.handed c waiting := Registry.find?_flush ..
    rw [Registry.rate?, hflushed, hc, Option.map_some, Option.map_some,
      ← RateWindow.rate_of_early hwaiting hfrom hto, ← hevents]
    rfl

/-- The left one comes in, gets one event, and goes; the latest act comes first. -/
def oneEvent : List Act :=
  [.disconnect (.ofNat 1) 900000000,
    .point (-10) 10 500000000,
    .share true,
    .hello ⟨.ofNat 1, Hello.spokenVersion, "left"⟩ .anyV4 1 (.ofNat 8) default]

/-- The left one comes in again. -/
def again : Act := .hello ⟨.ofNat 1, Hello.spokenVersion, "left"⟩ .anyV4 1000000000 (.ofNat 9) default

/-- Flushed before the left one comes again, the event does not count any more; what counts is the one event
since. -/
theorem flushed_in_time : ∃ d, start besideEachOther none 8 0 = .ok d ∧
    Enters d (.ofNat 1) again (.flush :: oneEvent) ∧
    (d.after (again :: .flush :: oneEvent)).router.bucketsOf (.ofNat 1) = [] ∧
    ((d.after (again :: .flush :: oneEvent)).after [.flush, .point (-10) 10 1200000000]).registry.rate?
      (.ofNat 1) 2500000000 = some 1 := by
  have hrun : (start besideEachOther none 8 0).toOption.map (fun d =>
      let entered := d.after (again :: .flush :: oneEvent)
      ((d.after (.flush :: oneEvent)).registry.isActive (.ofNat 1), entered.router.bucketsOf (.ofNat 1),
        entered.ticks (.ofNat 1) [.flush, .point (-10) 10 1200000000],
        ([[], [.point (-10) 10 1200000000], [.flush, .point (-10) 10 1200000000]].map fun past =>
          (entered.after past).registry.isActive (.ofNat 1)))) =
        some (false, [], [.flush, .event 1200000000], [true, true, true]) := by
    decide +kernel
  obtain ⟨d, hd, hrun⟩ := exists_start hrun
  simp only [Prod.mk.injEq, List.map_cons, List.map_nil, List.cons.injEq, and_true] at hrun
  obtain ⟨hidle, hwaiting, hticks, hactive, hactive₁, hactive₂⟩ := hrun
  have henters : Enters d (.ofNat 1) again (.flush :: oneEvent) := ⟨hactive, .inl hidle⟩
  obtain ⟨origin, htime, hrate, -⟩ :=
    rate_since_entry hd (.flush :: oneEvent) [.flush, .point (-10) 10 1200000000] henters
  obtain rfl : origin = 1000000000 := (Option.some.inj htime).symm
  have hstays : ∀ past, past <:+ [.flush, .point (-10) 10 1200000000] →
      ((d.after (again :: .flush :: oneEvent)).after past).registry.isActive (.ofNat 1) = true := by
    intro past hsuffix
    rcases List.suffix_cons_iff.1 hsuffix with rfl | hsuffix
    · exact hactive₂
    · rcases List.suffix_cons_iff.1 hsuffix with rfl | hsuffix
      · exact hactive₁
      · rw [List.suffix_nil.1 hsuffix]
        exact hactive
  refine ⟨d, hd, henters, hwaiting, ?_⟩
  rw [hrate ?_ ?_ ?_ 2500000000, hticks, hwaiting]
  · decide +kernel
  · intro past hsuffix
    exact Registry.contains_of_phase? (Registry.isActive_iff.1 (hstays past hsuffix))
  · rintro b past hsuffix ⟨-, hidle | hgreets⟩
    · cases (hstays past ((List.suffix_cons b past).trans hsuffix)).symm.trans hidle
    · obtain rfl | rfl : b = .flush ∨ b = .point (-10) 10 1200000000 := by
        simpa using hsuffix.subset List.mem_cons_self
      · cases hgreets
      · cases hgreets
  · simp

/-- Flushed after the left one has come again, the event from before counts into the first window since. Without
that event the rate is zero. -/
theorem old_event_counted : ∃ d, start besideEachOther none 8 0 = .ok d ∧ Enters d (.ofNat 1) again oneEvent ∧
    (d.after (again :: oneEvent)).ticks (.ofNat 1) [.flush] = [.flush] ∧
    (d.after (.flush :: again :: oneEvent)).registry.rate? (.ofNat 1) 2500000000 = some 1 ∧
    (d.after (.flush :: again :: oneEvent.eraseIdx 1)).registry.rate? (.ofNat 1) 2500000000 = some 0 := by
  have hrun : (start besideEachOther none 8 0).toOption.map (fun d =>
      ((d.after (again :: oneEvent)).registry.isActive (.ofNat 1),
        (d.after oneEvent).registry.isActive (.ofNat 1),
        (d.after (again :: oneEvent)).ticks (.ofNat 1) [.flush],
        (d.after (.flush :: again :: oneEvent)).registry.rate? (.ofNat 1) 2500000000,
        (d.after (.flush :: again :: oneEvent.eraseIdx 1)).registry.rate? (.ofNat 1) 2500000000)) =
          some (true, false, [.flush], some 1, some 0) := by
    decide +kernel
  obtain ⟨d, hd, hrun⟩ := exists_start hrun
  simp only [Prod.mk.injEq] at hrun
  obtain ⟨hactive, hidle, hticks, hold, hnone⟩ := hrun
  exact ⟨d, hd, ⟨hactive, .inl hidle⟩, hticks, hold, hnone⟩

end Desk

end SharedDesk
