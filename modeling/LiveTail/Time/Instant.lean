import LiveTail.Time.Calendar
/-! Instants of universal time with nanoseconds. A leap second is kept as more than `10 ^ 9`
nanoseconds behind the second before it. -/
namespace LiveTail

/-- The first day there is, -262143-01-01. -/
def firstDay : Int := -96465292

/-- The last day there is, +262142-12-31. -/
def lastDay : Int := 95026236

/-- A day counted from 1970-01-01, a second of it, and nanoseconds, which reach beyond a second in
a leap second. -/
structure Instant where
  day : Int
  second : Nat
  nano : Nat
  day_mem : firstDay ≤ day ∧ day ≤ lastDay
  second_lt : second < 86400
  nano_lt : nano < 2000000000
  deriving DecidableEq, Repr

namespace Instant

/-- 1970-01-01T00:00:00Z. -/
def epoch : Instant := ⟨0, 0, 0, by decide, by decide, by decide⟩

instance : Inhabited Instant := ⟨epoch⟩

/-- The instant of a day, second and nanosecond, if it is in range. -/
def of? (day : Int) (second nano : Nat) : Option Instant :=
  if h : (firstDay ≤ day ∧ day ≤ lastDay) ∧ second < 86400 ∧ nano < 2000000000 then
    some ⟨day, second, nano, h.1, h.2.1, h.2.2⟩
  else none

/-- The instant a number of milliseconds after the epoch. -/
def ofMillis? (ms : Int) : Option Instant :=
  of? (ms / 86400000) (ms % 86400000 / 1000).toNat (ms % 1000 * 1000000).toNat

/-- Whether the instant lies in a leap second. -/
def isLeap (t : Instant) : Bool := 1000000000 ≤ t.nano

/-- Milliseconds after the epoch, those of a leap second on top of the second before it. -/
def toMillis (t : Instant) : Int := (t.day * 86400 + t.second) * 1000 + (t.nano / 1000000 : Nat)

/-- The nanoseconds from `b` to `a`. A leap second counts if the time of day goes past it. -/
def nanosFrom (a b : Instant) : Int :=
  let leap : Int :=
    if b.second < a.second then (if b.isLeap then 1 else 0)
    else if a.second < b.second then (if a.isLeap then -1 else 0)
    else 0
  ((a.day - b.day) * 86400 + ((a.second : Int) - b.second) + leap) * 1000000000 +
    ((a.nano : Int) - b.nano)

/-- The whole milliseconds from `b` to `a`, without the part of one that is left. -/
def millisFrom (a b : Instant) : Int := (a.nanosFrom b).tdiv 1000000

end Instant

end LiveTail
