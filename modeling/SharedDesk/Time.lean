/-!
# Time

Clock readings and spans of time are whole nanoseconds. A reading counts from the moment the clock
started; a span that would run backwards is zero.

`Time.later?` is the one place where a deadline can fall outside what the clock can show. Where the
clock's own counter stood when it started is arbitrary (`Time.startSeconds`): another number moves the
last reading that can be shown, and nothing else.
-/

namespace SharedDesk

/-- A reading of the clock, in nanoseconds since it started. -/
abbrev Time := Nat

/-- A span of time, in nanoseconds. -/
abbrev Duration := Nat

namespace Duration

/-- Nanoseconds in one second. -/
def second : Duration := 1000000000

/-- A span of whole seconds. -/
def ofSeconds (n : Nat) : Duration := n * second

/-- A span of whole milliseconds. -/
def ofMillis (n : Nat) : Duration := n * 1000000

/-- The whole seconds in a span. -/
def wholeSeconds (d : Duration) : Nat := d / second

end Duration

namespace Time

/-- The span from `since` to `now`, zero when `now` lies before `since`. -/
def elapsed (now since : Time) : Duration := now - since

/-- What the clock's own seconds counter shows at reading zero. The number is arbitrary: it stands for
however long the counter has been running, and all that is asked of it is to lie below `lastSecond`. -/
def startSeconds : Nat := 1000000

/-- The last second the clock can show: its counter is a signed 64-bit number. -/
def lastSecond : Nat := UInt64.size / 2 - 1

/-- The reading `d` after `now`, if the clock can show it. -/
def later? (now : Time) (d : Duration) : Option Time :=
  if startSeconds + (now + d) / Duration.second ≤ lastSecond then some (now + d) else none

theorem eq_of_later? {now t : Time} {d : Duration} (h : later? now d = some t) : t = now + d := by
  unfold later? at h
  split at h
  · exact (Option.some.inj h).symm
  · cases h

theorem later?_eq_none_iff (now : Time) (d : Duration) :
    later? now d = none ↔ lastSecond < startSeconds + (now + d) / Duration.second := by
  unfold later?
  split <;> simp_all

theorem later?_ofSeconds_eq_none_iff (now : Time) (n : Nat) : later? now (.ofSeconds n) = none ↔
    lastSecond < startSeconds + Duration.wholeSeconds now + n := by
  have hsum : (now + Duration.ofSeconds n) / Duration.second = Duration.wholeSeconds now + n :=
    Nat.add_mul_div_right now n (by decide)
  rw [later?_eq_none_iff, hsum, Nat.add_assoc]

end Time

end SharedDesk
