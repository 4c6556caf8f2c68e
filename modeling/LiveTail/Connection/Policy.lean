import LiveTail.Number.Word
/-! Whether a worker opens the socket again after it ended, and how long it waits before it does. -/
namespace LiveTail

/-- The longest duration, in nanoseconds. -/
def maxNanos : Nat := (Word.count 64 - 1) * 1000000000 + 999999999

/-- A time span in nanoseconds. -/
structure Duration where
  nanos : Nat
  le_max : nanos ≤ maxNanos
  deriving DecidableEq, Repr

namespace Duration

/-- A number of nanoseconds, or the longest duration for more. -/
def saturated (n : Nat) : Duration := ⟨min n maxNanos, Nat.min_le_right _ _⟩

instance : Inhabited Duration := ⟨saturated 0⟩

def ofMillis (ms : Nat) : Duration := saturated (ms * 1000000)

/-- Whole milliseconds. -/
def toMillis (d : Duration) : Nat := d.nanos / 1000000

/-- Twice the duration, or the longest one. -/
def double (d : Duration) : Duration := saturated (2 * d.nanos)

instance : Min Duration := ⟨fun a b => if a.nanos ≤ b.nanos then a else b⟩

instance : Max Duration := ⟨fun a b => if a.nanos ≤ b.nanos then b else a⟩

end Duration

/-- The delays of a worker that reconnects: the first one, and the longest. -/
structure ReconnectPolicy where
  enabled : Bool
  initial : Duration
  longest : Duration
  deriving DecidableEq, Repr

namespace ReconnectPolicy

/-- Reconnects with delays that double from the first to the longest one, which is at least the
first. -/
def withBackoff (initial longest : Duration) : ReconnectPolicy :=
  ⟨true, initial, max longest initial⟩

/-- Stays disconnected. -/
def disabled : ReconnectPolicy :=
  { withBackoff (.ofMillis 1000) (.ofMillis 30000) with enabled := false }

instance : Inhabited ReconnectPolicy := ⟨disabled⟩

/-- The delay after a given one. -/
def next (p : ReconnectPolicy) (current : Duration) : Duration := min current.double p.longest

/-- The next delays after a given one. -/
def delays (p : ReconnectPolicy) : Nat → Duration → List Duration
  | 0, _ => []
  | n + 1, current => p.next current :: p.delays n (p.next current)

end ReconnectPolicy

end LiveTail
