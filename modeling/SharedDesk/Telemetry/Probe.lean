import SharedDesk.Telemetry.RateWindow
/-!
# Liveness probes of one client

At most one probe is on its way at a time. A probe that stays unanswered for the timeout is a
miss; an answer to it ends the row of misses. Numbers are never used again while 64 bits last, so
an answer to an earlier probe matches nothing.
-/

namespace SharedDesk

/-- A probe on its way. -/
structure Probe where
  number : UInt64
  sentAt : Time
deriving DecidableEq, Repr

/-- The probe on its way, if any, and the misses in a row. -/
structure ProbeTracker where
  /-- The number of the next probe. -/
  next : UInt64
  outstanding : Option Probe
  misses : Nat
deriving DecidableEq, Repr

namespace ProbeTracker

/-- No probe sent yet. -/
def fresh : ProbeTracker := ⟨0, none, 0⟩

/-- Sends a probe at `now`, unless one is on its way. -/
def send? (t : ProbeTracker) (now : Time) : Option (UInt64 × ProbeTracker) :=
  match t.outstanding with
  | some _ => none
  | none => some (t.next, { t with next := t.next + 1, outstanding := some ⟨t.next, now⟩ })

/-- Gives the probe on its way up as missed once it is as old as the timeout. -/
def expire? (t : ProbeTracker) (now : Time) (timeout : Duration) : Option ProbeTracker :=
  match t.outstanding with
  | some p =>
    if timeout ≤ Time.elapsed now p.sentAt then
      some { t with outstanding := none, misses := addCount t.misses 1 }
    else none
  | none => none

/-- Takes the answer to the probe of a number: the round trip, if that probe is on its way. -/
def answer? (t : ProbeTracker) (number : UInt64) (now : Time) : Option (Duration × ProbeTracker) :=
  match t.outstanding with
  | some p =>
    if p.number = number then
      some (Time.elapsed now p.sentAt, { t with outstanding := none, misses := 0 })
    else none
  | none => none

/-- Forgets the probe on its way and the misses, and keeps counting numbers. -/
def reset (t : ProbeTracker) : ProbeTracker := { t with outstanding := none, misses := 0 }

end ProbeTracker

end SharedDesk
