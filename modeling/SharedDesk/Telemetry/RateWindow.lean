import SharedDesk.Time
/-!
# Events per window

Time since a start is cut into windows of one width. The rate at a moment is what was counted in
the window before the one that holds it. The start moves on only when something is recorded, so a
reading looks up to one window ahead of the stored start.

Counters stop at the largest 32-bit number instead of starting over.
-/

namespace SharedDesk

/-- Where counters stop. -/
def countCeiling : Nat := UInt32.size - 1

/-- Adds to a counter, up to the ceiling. -/
def addCount (a b : Nat) : Nat := min (a + b) countCeiling

/-- Events counted in windows of fixed width. -/
structure RateWindow where
  width : Duration
  /-- Where the current window starts. -/
  start : Time
  /-- Events in the current window. -/
  current : Nat
  /-- Events in the window before the current one. -/
  completed : Nat
deriving DecidableEq, Repr

namespace RateWindow

/-- Nothing counted yet, in windows of at least one millisecond that start now. -/
def opening (width : Duration) (now : Time) : RateWindow :=
  ⟨max width (Duration.ofMillis 1), now, 0, 0⟩

/-- How many window widths lie between the start and now, as a count. -/
def windowsSince (w : RateWindow) (now : Time) : Nat :=
  min (Time.elapsed now w.start / w.width) countCeiling

/-- Events in the window before the one that holds `now`. -/
def rate (w : RateWindow) (now : Time) : Nat :=
  match w.windowsSince now with
  | 0 => w.completed
  | 1 => w.current
  | _ => 0

/-- Moves the start to the window that holds `now`. -/
def advance (w : RateWindow) (now : Time) : RateWindow :=
  match w.windowsSince now with
  | 0 => w
  | n + 1 =>
    { w with
      start := w.start + w.width * (n + 1)
      current := 0
      completed := if n = 0 then w.current else 0 }

/-- Counts events that happened at `now`. -/
def record (w : RateWindow) (count : Nat) (now : Time) : RateWindow :=
  let moved := w.advance now
  { moved with current := addCount moved.current count }

/-- Forgets every count and starts the windows over at `now`. -/
def restart (w : RateWindow) (now : Time) : RateWindow :=
  { w with start := now, current := 0, completed := 0 }

end RateWindow

end SharedDesk
