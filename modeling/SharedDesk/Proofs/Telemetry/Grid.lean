import SharedDesk.Proofs.Telemetry.RateWindow
/-!
# The rate over any run of a counter

A counter is started over again and again, and what it records in between is counted in windows from the last
restart on (`origin`, `recorded`). As long as operations come in order, and none so late that the windows between
two of them cannot be counted (`Steady`), a counter has always come to the window of the latest operation
(`tellsAt_after`). So the rate is what was recorded in the window before the one asked about, and moving the start
of the window on never leaves what the clock can show (`rate_on_grid`).
-/

namespace SharedDesk

/-- The clock can show a reading. Which one is the last it can show depends on where its counter stood at reading
zero, an arbitrary number (`Time.startSeconds`). -/
def Time.Shown (t : Time) : Prop := startSeconds + Duration.wholeSeconds t ≤ lastSecond

theorem Time.later?_eq_some {now t : Time} {d : Duration} (hle : now + d ≤ t) (h : t.Shown) :
    later? now d = some (now + d) := by
  have hseconds : (now + d) / Duration.second ≤ t / Duration.second := Nat.div_le_div_right hle
  unfold Shown Duration.wholeSeconds at h
  exact if_pos (Nat.le_trans (Nat.add_le_add_left hseconds _) h)

namespace RateWindow

/-- Something that is done with a counter. -/
inductive Operation
  | record (count : Nat) (now : Time)
  | restart (now : Time)

/-- When an operation takes place. -/
def Operation.time : Operation → Time
  | record _ now | restart now => now

/-- The counter after an operation. -/
def operate (w : RateWindow) : Operation → RateWindow
  | .record count now => w.record count now
  | .restart now => w.restart now

/-- The counter after a past, the latest operation first. -/
def after (w : RateWindow) : List Operation → RateWindow
  | [] => w
  | op :: past => (w.after past).operate op

/-- The time that a counter has come to, which was opened at `start`. -/
def latest (start : Time) : List Operation → Time
  | [] => start
  | op :: _ => op.time

/-- Where windows are counted from: the last restart, or the start. -/
def origin (start : Time) : List Operation → Time
  | [] => start
  | .record _ _ :: past => origin start past
  | .restart now :: _ => now

/-- What was recorded since the last restart, the latest first. -/
def recorded : List Operation → List Bucket
  | [] => []
  | .record count now :: past => ⟨now, count⟩ :: recorded past
  | .restart _ :: _ => []

/-- From the start on, no operation comes before the one before it, or more windows later than can be counted. -/
def Steady (width : Duration) (start : Time) : List Operation → Prop
  | [] => True
  | op :: past =>
    latest start past ≤ op.time ∧ op.time ≤ latest start past + width * countCeiling ∧ Steady width start past

variable {w : RateWindow} {width : Duration} {start now : Time} {past earlier : List Operation}

instance decidableSteady (width : Duration) (start : Time) :
    (past : List Operation) → Decidable (Steady width start past)
  | [] => .isTrue trivial
  | _ :: past =>
    have := decidableSteady width start past
    inferInstanceAs (Decidable (_ ∧ _ ∧ _))

theorem Steady.of_suffix (h : Steady width start past) (hsuffix : earlier <:+ past) :
    Steady width start earlier := by
  induction past with
  | nil => rwa [List.suffix_nil.1 hsuffix]
  | cons op past ih =>
    rcases List.suffix_cons_iff.1 hsuffix with rfl | hsuffix
    · exact h
    · exact ih h.2.2 hsuffix

/-! ## The start of the window -/

theorem advance_start (w : RateWindow) (now : Time) :
    (w.advance now).start = w.start + w.width * w.windowsSince now := by
  unfold advance
  split
  · rename_i hzero
    rw [hzero, Nat.mul_zero, Nat.add_zero]
  · rename_i n hn
    rw [hn]

/-- The start is moved on to a time that is not after the one it is moved on for. -/
theorem moved_le (h : w.start ≤ now) : w.start + w.width * w.windowsSince now ≤ now := by
  have hwindows : w.width * w.windowsSince now ≤ Time.elapsed now w.start := by
    calc w.width * w.windowsSince now
      _ ≤ w.width * (Time.elapsed now w.start / w.width) := Nat.mul_le_mul_left _ (Nat.min_le_left ..)
      _ ≤ Time.elapsed now w.start := Nat.mul_div_le ..
  exact Nat.add_le_of_le_sub' h hwindows

theorem start_le_latest (h : Steady (max width (.ofMillis 1)) start past) :
    ((opening width start).after past).start ≤ latest start past := by
  induction past with
  | nil => exact Nat.le_refl _
  | cons op past ih =>
    obtain ⟨hlatest, -, hsteady⟩ := h
    cases op with
    | record count now =>
      change (((opening width start).after past).advance now).start ≤ now
      rw [advance_start]
      exact moved_le (Nat.le_trans (ih hsteady) hlatest)
    | restart now => exact Nat.le_refl _

/-- Moving the start on to the window that holds a time takes a span of no more than 64 bits of seconds, and comes
to a start that the clock can show. -/
def MovesInRange (w : RateWindow) (now : Time) : Prop :=
  Duration.wholeSeconds (w.width * w.windowsSince now) < UInt64.size ∧
    Time.later? w.start (w.width * w.windowsSince now) = some (w.advance now).start

theorem movesInRange_of_le (h : w.start ≤ now) (hshown : now.Shown) : w.MovesInRange now := by
  have hmoved := moved_le h
  constructor
  · have hspan : Duration.wholeSeconds (w.width * w.windowsSince now) ≤ Duration.wholeSeconds now :=
      Nat.div_le_div_right (Nat.le_trans (Nat.le_add_left ..) hmoved)
    have hlast : Time.lastSecond < UInt64.size := by decide
    unfold Time.Shown at hshown
    omega
  · rw [advance_start]
    exact Time.later?_eq_some hmoved hshown

/-! ## The windows -/

/-- Whatever was recorded, and however often the counter was started over, it has come to the window of the latest
operation. -/
theorem tellsAt_after (h : Steady (max width (.ofMillis 1)) start past) :
    let width' := max width (.ofMillis 1)
    TellsAt (origin start past) width' (recorded past)
      (windowIndex (origin start past) width' (latest start past)) ((opening width start).after past) := by
  intro width'
  have hwidth : Duration.ofMillis 1 ≤ width' := Nat.le_max_right ..
  have hpos : 0 < width' := Nat.lt_of_lt_of_le (by decide) hwidth
  induction past with
  | nil =>
    have hopening : opening width start = opening width' start := by simp [opening, width']
    rw [hopening, origin, latest, windowIndex_self]
    exact tellsAt_opening hwidth start
  | cons op past ih =>
    obtain ⟨hlatest, hnear, hsteady⟩ := h
    have hbefore := ih hsteady
    cases op with
    | record count now =>
      -- The latest operation is in the window that the counter has come to, so the count of windows is not capped.
      have hk := windowIndex_mono (origin start past) width' hlatest
      have hfar := windowIndex_le_add (origin start past) hpos hnear
      exact hbefore.record (b := ⟨now, count⟩) hk (Nat.sub_le_iff_le_add'.2 hfar)
    | restart now =>
      rw [origin, latest, Operation.time, windowIndex_self]
      exact tellsAt_restart hbefore.same_width now

/-- Let a counter be opened, and record events and be started over in whatever order, each time not before the last
and not more windows later than can be counted. At every time from then on, the rate is the number of events, up
to the ceiling, that were recorded since the last restart in the window before the one that holds this time; in
the first window there is none. The start of the window is never after the latest operation, and wherever it was
moved on for a time that the clock can show, spans and clock had room for it. -/
theorem rate_on_grid (width : Duration) (start : Time) (past : List Operation) (now : Time)
    (hsteady : Steady (max width (.ofMillis 1)) start past) (hnow : latest start past ≤ now) :
    let w := (opening width start).after past
    let window := windowIndex (origin start past) (max width (.ofMillis 1))
    w.rate now = min (counted (fun t => window t + 1 = window now) (recorded past)) countCeiling ∧
    (window now = 0 → w.rate now = 0) ∧
    w.start ≤ latest start past ∧
    ∀ op earlier, op :: earlier <:+ past → op.time.Shown →
      ((opening width start).after earlier).MovesInRange op.time := by
  intro w window
  have hrate : w.rate now = min (counted (fun t => window t + 1 = window now) (recorded past)) countCeiling :=
    (tellsAt_after hsteady).rate_eq (windowIndex_mono _ _ hnow)
  refine ⟨hrate, ?_, start_le_latest hsteady, ?_⟩
  · intro hfirst
    have hnone : counted (fun t => window t + 1 = window now) (recorded past) = 0 := by
      apply counted_eq_zero
      intro b _
      simp [hfirst]
    rw [hrate, hnone, Nat.zero_min]
  · intro op earlier hsuffix hshown
    obtain ⟨hlatest, -, hearlier⟩ := hsteady.of_suffix hsuffix
    exact movesInRange_of_le (Nat.le_trans (start_le_latest hearlier) hlatest) hshown

/-- A counter with the shortest windows, started over once, is idle for as many windows as can be counted; then
more is recorded than it can hold. -/
def longIdle : List Operation :=
  [.record 40 4294967298000000, .record 4294967290 4294967298000000, .restart 3000000, .record 3 1000005]

/-- In the window after it shows the ceiling. -/
theorem ceiling_after_long_idle :
    Steady (max 0 (.ofMillis 1)) 5 longIdle ∧ latest 5 longIdle ≤ 4294967299500000 ∧
    ((opening 0 5).after longIdle).rate 4294967299500000 = countCeiling ∧
    ((opening 0 5).after longIdle).start = 4294967298000000 ∧
    ((opening 0 5).after (longIdle.drop 2)).MovesInRange 4294967298000000 := by
  have hsteady : Steady (max 0 (.ofMillis 1)) 5 longIdle := by decide
  have hnow : latest 5 longIdle ≤ 4294967299500000 := by decide
  obtain ⟨hrate, -, -, hrange⟩ := rate_on_grid 0 5 longIdle 4294967299500000 hsteady hnow
  have hshown : Time.Shown 4294967298000000 := by
    unfold Time.Shown
    decide
  refine ⟨hsteady, hnow, hrate.trans ?_, ?_, ?_⟩
  · decide
  · decide
  · exact hrange (.record 4294967290 4294967298000000) (longIdle.drop 2) (List.suffix_cons ..) hshown

end RateWindow

end SharedDesk
