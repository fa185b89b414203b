import SharedDesk.Router
import Mathlib.Algebra.GroupWithZero.Nat
import Mathlib.Data.List.Basic
/-!
# What a window of events has counted

From an origin on, time is cut into windows of one width, numbered from zero (`windowIndex`). A counter that
takes buckets in, oldest first, holds the events of two of these windows: the latest one a bucket has reached,
and the one before (`TellsAt`). So the rate at a time is the number of events in the window before the one
that holds it, up to the ceiling (`TellsAt.rate_eq`).
-/

namespace SharedDesk

theorem addCount_min (n m : Nat) : addCount (min n countCeiling) m = min (n + m) countCeiling := by
  unfold addCount
  omega

/-- The number of the window that holds a time. What lies before the origin counts to the first window. -/
def windowIndex (origin : Time) (width : Duration) (t : Time) : Nat := Time.elapsed t origin / width

theorem windowIndex_mono (origin : Time) (width : Duration) {s t : Time} (h : s ≤ t) :
    windowIndex origin width s ≤ windowIndex origin width t :=
  Nat.div_le_div_right (Nat.sub_le_sub_right h origin)

theorem windowIndex_self (origin : Time) (width : Duration) : windowIndex origin width origin = 0 := by
  rw [windowIndex, Time.elapsed, Nat.sub_self, Nat.zero_div]

/-- What comes no more than some windows later is in a window no more than as many further on. -/
theorem windowIndex_le_add (origin : Time) {width : Duration} (hwidth : 0 < width) {s t : Time} {n : Nat}
    (h : t ≤ s + width * n) : windowIndex origin width t ≤ windowIndex origin width s + n := by
  have hshift : ∀ t s d o : Nat, t ≤ s + d → t - o ≤ s - o + d := by
    omega
  have helapsed : Time.elapsed t origin ≤ Time.elapsed s origin + width * n := hshift _ _ _ _ h
  calc windowIndex origin width t
    _ ≤ (Time.elapsed s origin + width * n) / width := Nat.div_le_div_right helapsed
    _ = windowIndex origin width s + n := Nat.add_mul_div_left _ _ hwidth

/-- How many events are in those buckets that start at a time with a property. -/
def counted (p : Time → Bool) (buckets : List Bucket) : Nat :=
  ((buckets.filter fun b => p b.start).map Bucket.count).sum

variable {p q : Time → Bool} {b : Bucket} {buckets rest : List Bucket}

@[simp]
theorem counted_nil (p : Time → Bool) : counted p [] = 0 := rfl

theorem counted_cons (p : Time → Bool) (b : Bucket) (rest : List Bucket) :
    counted p (b :: rest) = (if p b.start then b.count else 0) + counted p rest := by
  unfold counted
  by_cases h : p b.start = true <;> simp [h]

theorem counted_append (p : Time → Bool) (buckets rest : List Bucket) :
    counted p (buckets ++ rest) = counted p buckets + counted p rest := by
  simp [counted]

theorem counted_congr (h : ∀ b ∈ buckets, p b.start = q b.start) :
    counted p buckets = counted q buckets := by
  unfold counted
  rw [List.filter_congr h]

theorem counted_eq_zero (h : ∀ b ∈ buckets, p b.start = false) : counted p buckets = 0 := by
  have hnone : (buckets.filter fun b => p b.start) = [] := by simpa [List.filter_eq_nil_iff] using h
  simp [counted, hnone]

namespace RateWindow

/-- Takes a bucket in, unless it is empty. -/
def take (w : RateWindow) (b : Bucket) : RateWindow := if 0 < b.count then w.record b.count b.start else w

/-- Takes buckets in, the last one of the list first. -/
def takeAll (w : RateWindow) (buckets : List Bucket) : RateWindow := buckets.foldr (fun b w => w.take b) w

/-- The counter has come to the window of number `k`, and holds what is in the buckets of that window and of
the one before. -/
structure TellsAt (origin : Time) (width : Duration) (buckets : List Bucket) (k : Nat) (w : RateWindow) :
    Prop where
  same_width : w.width = width
  start : w.start = origin + width * k
  reached : k = 0 ∨ ∃ b ∈ buckets, windowIndex origin width b.start = k
  before : ∀ b ∈ buckets, windowIndex origin width b.start ≤ k
  current : w.current = min (counted (fun t => windowIndex origin width t = k) buckets) countCeiling
  completed : w.completed = min (counted (fun t => windowIndex origin width t + 1 = k) buckets) countCeiling

variable {w : RateWindow} {origin now : Time} {width : Duration} {k : Nat}

/-- A counter that has just started has seen nothing. -/
theorem tellsAt_opening (h : Duration.ofMillis 1 ≤ width) (origin : Time) :
    TellsAt origin width [] 0 (opening width origin) := by
  constructor <;> simp [opening, h]

/-- So has a counter that was started over, whatever it had seen before. -/
theorem tellsAt_restart (h : w.width = width) (now : Time) : TellsAt now width [] 0 (w.restart now) := by
  constructor <;> simp [restart, h]

theorem windowsSince_eq (h : w.start = origin + w.width * k) (t : Time) :
    w.windowsSince t = min (windowIndex origin w.width t - k) countCeiling := by
  rw [windowsSince, windowIndex, Time.elapsed, Time.elapsed, h, ← Nat.sub_sub, Nat.sub_mul_div]

theorem TellsAt.windowsSince_eq (h : TellsAt origin width buckets k w) (t : Time) :
    w.windowsSince t = min (windowIndex origin width t - k) countCeiling := by
  have hstart := h.start
  rw [← h.same_width] at hstart ⊢
  exact RateWindow.windowsSince_eq hstart t

/-- No bucket has come further than the counter, so none is counted in a later window. -/
theorem TellsAt.counted_later (h : TellsAt origin width buckets k w)
    (hp : ∀ t, p t = true → k < windowIndex origin width t) : counted p buckets = 0 := by
  apply counted_eq_zero
  intro b hb
  by_contra hcounts
  rw [Bool.not_eq_false] at hcounts
  exact Nat.not_le.2 (hp b.start hcounts) (h.before b hb)

/-- Moving on to a window that is not behind leaves the events of the window before it, if it is the next
one. -/
theorem TellsAt.advance (h : TellsAt origin width buckets k w) (hk : k ≤ windowIndex origin width now)
    (hnear : windowIndex origin width now - k ≤ countCeiling) :
    let n := windowIndex origin width now
    (w.advance now).width = width ∧ (w.advance now).start = origin + width * n ∧
      (w.advance now).current = min (counted (fun t => windowIndex origin width t = n) buckets) countCeiling ∧
      (w.advance now).completed =
        min (counted (fun t => windowIndex origin width t + 1 = n) buckets) countCeiling := by
  intro n
  have hsince : w.windowsSince now = n - k := by
    rw [h.windowsSince_eq, Nat.min_eq_left hnear]
  unfold RateWindow.advance
  split
  · rename_i hzero
    obtain rfl : n = k := by omega
    exact ⟨h.same_width, h.start, h.current, h.completed⟩
  · rename_i m hsome
    have hn : n = k + (m + 1) := by omega
    refine ⟨h.same_width, ?_, ?_, ?_⟩
    · dsimp only
      rw [h.start, h.same_width, hn, Nat.add_assoc, ← Nat.mul_add]
    · have hnone : counted (fun t => windowIndex origin width t = n) buckets = 0 := by
        apply h.counted_later
        intro t ht
        rw [decide_eq_true_iff] at ht
        omega
      simp [hnone]
    · dsimp only
      split
      · rename_i hm
        rw [h.current]
        refine congrArg (min · countCeiling) (counted_congr ?_)
        intro b _
        simp only [decide_eq_decide]
        omega
      · rename_i hm
        have hnone : counted (fun t => windowIndex origin width t + 1 = n) buckets = 0 := by
          apply h.counted_later
          intro t ht
          rw [decide_eq_true_iff] at ht
          omega
        simp [hnone]

theorem TellsAt.record (h : TellsAt origin width buckets k w) (hk : k ≤ windowIndex origin width b.start)
    (hnear : windowIndex origin width b.start - k ≤ countCeiling) :
    TellsAt origin width (b :: buckets) (windowIndex origin width b.start) (w.record b.count b.start) := by
  obtain ⟨hwidth, hstart, hcurrent, hcompleted⟩ := h.advance hk hnear
  constructor
  · exact hwidth
  · exact hstart
  · exact .inr ⟨b, List.mem_cons_self, rfl⟩
  · intro b' hb'
    rcases List.mem_cons.1 hb' with rfl | hb'
    · exact Nat.le_refl _
    · exact Nat.le_trans (h.before b' hb') hk
  · rw [RateWindow.record, hcurrent, addCount_min, counted_cons]
    simp [Nat.add_comm]
  · rw [RateWindow.record, hcompleted, counted_cons]
    simp

theorem TellsAt.takeAll (h : TellsAt origin width buckets k w) {new : List Bucket}
    (hcount : ∀ b ∈ new, 0 < b.count)
    (hsorted : (new ++ buckets).Pairwise fun later earlier => earlier.start ≤ later.start)
    (hnear : ∀ b ∈ new, windowIndex origin width b.start ≤ countCeiling) :
    ∃ k, TellsAt origin width (new ++ buckets) k (w.takeAll new) := by
  induction new with
  | nil => exact ⟨k, h⟩
  | cons b rest ih =>
    obtain ⟨hpos, hcount⟩ := List.forall_mem_cons.1 hcount
    obtain ⟨hlatest, hsorted⟩ := List.pairwise_cons.1 hsorted
    obtain ⟨hb, hnear⟩ := List.forall_mem_cons.1 hnear
    obtain ⟨k, hrest⟩ := ih hcount hsorted hnear
    have hk : k ≤ windowIndex origin width b.start := by
      rcases hrest.reached with hzero | ⟨b', hb', hindex⟩
      · omega
      · rw [← hindex]
        exact windowIndex_mono origin width (hlatest b' hb')
    refine ⟨windowIndex origin width b.start, ?_⟩
    have htake : w.takeAll (b :: rest) = (w.takeAll rest).record b.count b.start := if_pos hpos
    rw [htake]
    exact hrest.record hk (by omega)

/-- The rate is what was counted in the window before the one that holds the time. -/
theorem TellsAt.rate_eq (h : TellsAt origin width buckets k w) (hk : k ≤ windowIndex origin width now) :
    w.rate now = min (counted (fun t => windowIndex origin width t + 1 = windowIndex origin width now) buckets)
      countCeiling := by
  have hsince := h.windowsSince_eq now
  have hceiling : 2 ≤ countCeiling := by decide
  unfold RateWindow.rate
  split
  · rename_i hzero
    obtain hn : windowIndex origin width now = k := by omega
    rw [hn, h.completed]
  · rename_i hone
    have hn : windowIndex origin width now = k + 1 := by omega
    rw [h.current, hn]
    simp
  · rename_i hzero hone
    have hlate : w.windowsSince now ≠ 0 ∧ w.windowsSince now ≠ 1 := ⟨hzero, hone⟩
    have hnone :
        counted (fun t => windowIndex origin width t + 1 = windowIndex origin width now) buckets = 0 := by
      apply h.counted_later
      intro t ht
      rw [decide_eq_true_iff] at ht
      omega
    simp [hnone]

end RateWindow

end SharedDesk
