import SharedDesk.Time
/-!
# Round trips

The last eight round trips of answered probes, and their mean in milliseconds. The mean is computed
in double precision and rounded to single precision once, at the end.

Spans have no upper end here, so the sum of round trips always exists. Where spans end at 64 bits of
seconds, eight of them can be added up as long as each is below `2 ^ 61` seconds, which no answer to a
probe takes.
-/

namespace SharedDesk

/-- The latest round trips, newest first. -/
structure Latency where
  samples : List Duration
deriving DecidableEq, Repr

namespace Latency

/-- How many round trips are kept. -/
def capacity : Nat := 8

/-- No round trip yet. -/
def none : Latency := ⟨[]⟩

/-- Keeps a round trip, in place of the oldest one when full. -/
def record (l : Latency) (roundTrip : Duration) : Latency :=
  ⟨(roundTrip :: l.samples).take capacity⟩

/-- The latest round trip. -/
def last? (l : Latency) : Option Duration := l.samples.head?

/-- A span in seconds: the whole ones and the fraction are converted apart. -/
def seconds (d : Duration) : Float :=
  (d / Duration.second).toUInt64.toFloat + (d % Duration.second).toUInt64.toFloat / 1e9

/-- The mean of the kept round trips in milliseconds, zero when there are none. -/
def meanMillis (l : Latency) : Float32 :=
  match l.samples with
  | [] => 0
  | samples => (seconds (samples.foldr (· + ·) 0) * 1000.0 / samples.length.toUInt64.toFloat).toFloat32

end Latency

end SharedDesk
