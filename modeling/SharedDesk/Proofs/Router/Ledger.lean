import SharedDesk.Proofs.Telemetry.RateWindow
/-!
# From events to the event rate

The events of one client go into buckets, a flush hands the buckets to the client's record, and the record
cuts them into windows. A `Ledger` is this way of an event as such, and a `Tick` one of the two things that
happen on it. Each event is published under the start of its bucket: `stamps` gives every event with this
start, `waiting` and `published` those that no flush has handed over yet, and those that one has.

`Ledger.rate_after` is the rate that comes out of it, whenever the flushes take place.
-/

namespace SharedDesk

/-- An event of a client, or a flush. -/
inductive Tick
  | event (now : Time)
  | flush
deriving DecidableEq

/-- When the events take place. -/
def Tick.times : List Tick → List Time
  | [] => []
  | event now :: past => now :: times past
  | flush :: past => times past

/-- The events come one after the other; the latest one stands first. -/
def Tick.Ordered (ticks : List Tick) : Prop := (times ticks).Pairwise fun later earlier => earlier ≤ later

/-- What the record of a client has counted, and the buckets that wait for it, newest first. -/
structure Ledger where
  window : RateWindow
  pending : List Bucket
deriving DecidableEq

namespace Ledger

/-- The ledger after an event or a flush. -/
def tick (l : Ledger) : Tick → Ledger
  | .event now => { l with pending := Router.countInto l.pending now }
  | .flush => ⟨l.window.takeAll l.pending, []⟩

/-- The ledger after a past of ticks, the latest one first. -/
def after (l : Ledger) : List Tick → Ledger
  | [] => l
  | t :: past => (l.after past).tick t

/-- The ledger after one more tick, or none. -/
def follow (l : Ledger) : Option Tick → Ledger
  | some t => l.tick t
  | none => l

theorem after_toList (l : Ledger) (t? : Option Tick) (past : List Tick) :
    l.after (t?.toList ++ past) = (l.after past).follow t? := by
  cases t? <;> rfl

end Ledger

/-! ## Events under the start of their buckets -/

/-- An event, and the start of its bucket. -/
structure Stamp where
  event : Time
  start : Time
deriving DecidableEq

namespace Stamp

/-- Where the bucket of an event starts: at the start of the newest bucket, unless that is too old. -/
def startFor (newest : Option Stamp) (now : Time) : Time :=
  match newest with
  | some s => if Time.elapsed now s.start < bucketWidth then s.start else now
  | none => now

/-- The events since the last flush, the latest one first. -/
def waiting : List Tick → List Stamp
  | [] => []
  | .event now :: past => ⟨now, startFor (waiting past).head? now⟩ :: waiting past
  | .flush :: _ => []

/-- The events before the last flush, the latest one first. -/
def published : List Tick → List Stamp
  | [] => []
  | .event _ :: past => published past
  | .flush :: past => waiting past ++ published past

/-- All events, the latest one first. -/
def stamps (ticks : List Tick) : List Stamp := waiting ticks ++ published ticks

variable {ticks past : List Tick} {now origin : Time} {s : Stamp}

@[simp]
theorem stamps_event (now : Time) (past : List Tick) :
    stamps (.event now :: past) = ⟨now, startFor (waiting past).head? now⟩ :: stamps past := rfl

@[simp]
theorem stamps_flush (past : List Tick) : stamps (.flush :: past) = stamps past := rfl

theorem published_flush (past : List Tick) : published (.flush :: past) = stamps past := rfl

/-- No event is lost, and none comes twice. -/
theorem events_stamps (ticks : List Tick) : (stamps ticks).map event = Tick.times ticks := by
  induction ticks with
  | nil => rfl
  | cons t past ih => cases t <;> simp [Tick.times, ih]

theorem event_latest (h : Tick.Ordered (.event now :: past)) :
    (∀ s ∈ stamps past, s.event ≤ now) ∧ Tick.Ordered past := by
  obtain ⟨hlatest, hpast⟩ := List.pairwise_cons.1 h
  refine ⟨fun s hs => hlatest _ ?_, hpast⟩
  rw [← events_stamps]
  exact List.mem_map_of_mem hs

theorem mem_stamps_of_head? (h : (waiting past).head? = some s) : s ∈ stamps past :=
  List.mem_append_left _ (List.mem_of_head? h)

/-- The bucket of a new event starts with the newest bucket, or with the event itself. -/
theorem startFor_cases (now : Time) (past : List Tick) :
    (∃ s, (waiting past).head? = some s ∧ startFor (waiting past).head? now = s.start ∧
      Time.elapsed now s.start < bucketWidth) ∨ startFor (waiting past).head? now = now := by
  unfold startFor
  cases (waiting past).head? with
  | none => exact .inr rfl
  | some s =>
    by_cases hnear : Time.elapsed now s.start < bucketWidth
    · exact .inl ⟨s, rfl, if_pos hnear, hnear⟩
    · exact .inr (if_neg hnear)

/-- Every bucket starts with one of the events. -/
theorem start_mem (hs : s ∈ stamps ticks) : s.start ∈ Tick.times ticks := by
  rw [← events_stamps]
  induction ticks generalizing s with
  | nil => cases hs
  | cons t past ih =>
    cases t with
    | flush => exact ih hs
    | event now =>
      rw [stamps_event] at hs
      rcases List.mem_cons.1 hs with rfl | hs
      · dsimp only
        rcases startFor_cases now past with ⟨first, hhead, heq, -⟩ | heq
        · rw [heq]
          exact List.mem_cons_of_mem _ (ih (mem_stamps_of_head? hhead))
        · rw [heq]
          exact List.mem_cons_self
      · exact List.mem_cons_of_mem _ (ih hs)

/-- No event comes before its bucket starts, or when the bucket is too old. -/
theorem in_bucket (h : Tick.Ordered ticks) (hs : s ∈ stamps ticks) :
    s.start ≤ s.event ∧ s.event < s.start + bucketWidth := by
  have hwidth : 0 < bucketWidth := by decide
  induction ticks generalizing s with
  | nil => cases hs
  | cons t past ih =>
    cases t with
    | flush => exact ih h hs
    | event now =>
      obtain ⟨hlatest, hpast⟩ := event_latest h
      rw [stamps_event] at hs
      rcases List.mem_cons.1 hs with rfl | hs
      · dsimp only
        rcases startFor_cases now past with ⟨first, hhead, heq, hnear⟩ | heq
        · have hfirst := mem_stamps_of_head? hhead
          have hle : first.start ≤ now := Nat.le_trans (ih hpast hfirst).1 (hlatest first hfirst)
          rw [heq]
          exact ⟨hle, (Nat.sub_lt_iff_lt_add' hle).1 hnear⟩
        · rw [heq]
          exact ⟨Nat.le_refl _, Nat.lt_add_of_pos_right hwidth⟩
      · exact ih hpast hs

/-- The buckets start one after the other. -/
theorem starts_ordered (h : Tick.Ordered ticks) :
    ((stamps ticks).map start).Pairwise fun later earlier => earlier ≤ later := by
  induction ticks with
  | nil => exact List.Pairwise.nil
  | cons t past ih =>
    cases t with
    | flush => exact ih h
    | event now =>
      obtain ⟨hlatest, hpast⟩ := event_latest h
      have hsorted := ih hpast
      rw [stamps_event, List.map_cons]
      refine List.pairwise_cons.2 ⟨?_, hsorted⟩
      intro t ht
      obtain ⟨s, hs, rfl⟩ := List.mem_map.1 ht
      rcases startFor_cases now past with ⟨first, hhead, heq, -⟩ | heq
      · -- The newest bucket is the first one of all.
        obtain ⟨rest, hrest⟩ := List.head?_eq_some_iff.1 hhead
        rw [stamps, hrest, List.cons_append] at hs hsorted
        rw [heq]
        rcases List.mem_cons.1 hs with rfl | hs
        · exact Nat.le_refl _
        · exact (List.pairwise_cons.1 hsorted).1 _ (List.mem_map_of_mem hs)
      · rw [heq]
        exact Nat.le_trans (in_bucket hpast hs).1 (hlatest s hs)

/-- An event is published in the window that it belongs to. Only in the first moments of a window it may be
published in the one before. -/
theorem published_window (h : Tick.Ordered ticks) (horigin : ∀ t ∈ Tick.times ticks, origin ≤ t)
    (hs : s ∈ stamps ticks) :
    let window := windowIndex origin rateWidth
    window s.start = window s.event ∨ (window s.start + 1 = window s.event ∧
      Time.elapsed s.event origin % rateWidth < bucketWidth) := by
  have hnear : ∀ o a b : Nat, o ≤ a → a ≤ b → b < a + 10000000 →
      (a - o) / 1000000000 = (b - o) / 1000000000 ∨
        ((a - o) / 1000000000 + 1 = (b - o) / 1000000000 ∧ (b - o) % 1000000000 < 10000000) := by
    omega
  obtain ⟨hle, hlt⟩ := in_bucket h hs
  exact hnear origin s.start s.event (horigin _ (start_mem hs)) hle hlt

end Stamp

/-! ## What buckets hold -/

/-- Buckets hold events: each as many, up to the ceiling, as were stamped with its start. -/
structure Holds (buckets : List Bucket) (stamps : List Stamp) : Prop where
  positive : ∀ b ∈ buckets, 0 < b.count
  starts : (buckets.map Bucket.start).Sublist (stamps.map Stamp.start)
  count : ∀ p : Time → Bool,
    min (counted p buckets) countCeiling = min (stamps.countP fun s => p s.start) countCeiling

namespace Holds

variable {buckets buckets' : List Bucket} {stamps stamps' : List Stamp}

theorem nil : Holds [] [] := ⟨nofun, List.Sublist.refl _, fun _ => rfl⟩

theorem append (h : Holds buckets stamps) (h' : Holds buckets' stamps') :
    Holds (buckets ++ buckets') (stamps ++ stamps') := by
  constructor
  · intro b hb
    exact (List.mem_append.1 hb).elim (h.positive b) (h'.positive b)
  · rw [List.map_append, List.map_append]
    exact h.starts.append h'.starts
  · intro p
    have hcount := h.count p
    have hcount' := h'.count p
    rw [counted_append, List.countP_append]
    omega

/-- A new event is counted into the newest bucket, or opens one. -/
theorem countInto (h : Holds buckets stamps)
    (hhead : buckets.head?.map Bucket.start = stamps.head?.map Stamp.start) (now : Time) :
    let stamps' := ⟨now, Stamp.startFor stamps.head? now⟩ :: stamps
    Holds (Router.countInto buckets now) stamps' ∧
      (Router.countInto buckets now).head?.map Bucket.start = stamps'.head?.map Stamp.start := by
  -- A bucket of its own holds the event, whatever there was before.
  have hopened : Holds (⟨now, 1⟩ :: buckets) (⟨now, now⟩ :: stamps) := by
    have hone : Holds [⟨now, 1⟩] [⟨now, now⟩] := by
      constructor
      · simp
      · exact List.Sublist.refl _
      · intro p
        by_cases hp : p now = true <;> simp [counted, hp]
    exact hone.append h
  cases buckets with
  | nil =>
    obtain rfl : stamps = [] := by simpa using hhead.symm
    exact ⟨hopened, rfl⟩
  | cons b rest =>
    obtain ⟨s, hs, hstart⟩ : ∃ s, stamps.head? = some s ∧ s.start = b.start :=
      Option.map_eq_some_iff.1 hhead.symm
    by_cases hnear : Time.elapsed now b.start < bucketWidth
    · have hbucket : Router.countInto (b :: rest) now = { b with count := addCount b.count 1 } :: rest :=
        if_pos hnear
      have hstamp : Stamp.startFor stamps.head? now = b.start := by
        simp [Stamp.startFor, hs, hstart, hnear]
      rw [hbucket, hstamp]
      refine ⟨⟨?_, ?_, ?_⟩, rfl⟩
      · intro b' hb'
        rcases List.mem_cons.1 hb' with rfl | hb'
        · have hceiling : 0 < countCeiling := by decide
          simp only [addCount]
          omega
        · exact h.positive b' (List.mem_cons_of_mem _ hb')
      · exact h.starts.cons _
      · intro p
        have hcount := h.count p
        rw [counted_cons] at hcount ⊢
        simp only [List.countP_cons, addCount]
        by_cases hp : p b.start = true
        · simp only [hp, if_true] at hcount ⊢
          omega
        · simpa [hp] using hcount
    · have hbucket : Router.countInto (b :: rest) now = ⟨now, 1⟩ :: b :: rest := if_neg hnear
      have hstamp : Stamp.startFor stamps.head? now = now := by
        simp [Stamp.startFor, hs, hstart, hnear]
      rw [hbucket, hstamp]
      exact ⟨hopened, rfl⟩

end Holds

/-! ## The rate -/

namespace Ledger

open Stamp

variable {width : Duration}

theorem takeAll_append (w : RateWindow) (new old : List Bucket) :
    w.takeAll (new ++ old) = (w.takeAll old).takeAll new := List.foldr_append

/-- Whatever was flushed when, the record has taken buckets in that hold the published events, and other buckets
hold those that are waiting. -/
theorem after_holds (w : RateWindow) (ticks : List Tick) :
    (∃ taken, (after ⟨w, []⟩ ticks).window = w.takeAll taken ∧ Holds taken (published ticks)) ∧
    Holds (after ⟨w, []⟩ ticks).pending (waiting ticks) ∧
    (after ⟨w, []⟩ ticks).pending.head?.map Bucket.start = (waiting ticks).head?.map Stamp.start := by
  induction ticks with
  | nil => exact ⟨⟨[], rfl, Holds.nil⟩, Holds.nil, rfl⟩
  | cons t past ih =>
    obtain ⟨⟨taken, hwindow, htaken⟩, hpending, hhead⟩ := ih
    cases t with
    | event now =>
      obtain ⟨hpending, hhead⟩ := hpending.countInto hhead now
      exact ⟨⟨taken, hwindow, htaken⟩, hpending, hhead⟩
    | flush =>
      refine ⟨⟨(after ⟨w, []⟩ past).pending ++ taken, ?_, hpending.append htaken⟩, Holds.nil, rfl⟩
      rw [takeAll_append, ← hwindow]
      rfl

/-- The rate at a time is the number of events published in the window before the one that holds it. -/
theorem rate_after (ticks : List Tick) (origin now : Time) (hwidth : Duration.ofMillis 1 ≤ width)
    (h : Tick.Ordered ticks)
    (hnow : ∀ t ∈ Tick.times ticks, t ≤ now)
    (hnear : ∀ t ∈ Tick.times ticks, t ≤ origin + width * countCeiling) :
    (after ⟨.opening width origin, []⟩ ticks).window.rate now =
      min ((published ticks).countP fun s =>
        windowIndex origin width s.start + 1 = windowIndex origin width now) countCeiling := by
  obtain ⟨⟨taken, hwindow, htaken⟩, -⟩ := after_holds (.opening width origin) ticks
  have hpublished : ((published ticks).map Stamp.start).Sublist ((stamps ticks).map Stamp.start) :=
    (List.sublist_append_right _ _).map _
  have hstarts := htaken.starts.trans hpublished
  -- Every bucket that was taken in starts with an event.
  have hmem : ∀ b ∈ taken, b.start ∈ Tick.times ticks := by
    intro b hb
    obtain ⟨s, hs, hstart⟩ := List.mem_map.1 (hstarts.subset (List.mem_map_of_mem hb))
    rw [← hstart]
    exact start_mem hs
  have hsorted : (taken ++ []).Pairwise fun later earlier : Bucket => earlier.start ≤ later.start := by
    rw [List.append_nil]
    exact List.pairwise_map.1 ((starts_ordered h).sublist hstarts)
  have hindex : ∀ b ∈ taken, windowIndex origin width b.start ≤ countCeiling := by
    intro b hb
    have hle := hnear _ (hmem b hb)
    have hpos : 0 < width := Nat.lt_of_lt_of_le (by decide) hwidth
    exact Nat.div_le_of_le_mul (Nat.sub_le_iff_le_add'.2 hle)
  obtain ⟨k, htells⟩ := (RateWindow.tellsAt_opening hwidth origin).takeAll htaken.positive hsorted hindex
  rw [List.append_nil] at htells
  have hk : k ≤ windowIndex origin width now := by
    rcases htells.reached with rfl | ⟨b, hb, rfl⟩
    · exact Nat.zero_le _
    · exact windowIndex_mono origin width (hnow _ (hmem b hb))
  rw [hwindow, htells.rate_eq hk, htaken.count]

end Ledger

end SharedDesk
