import LiveTail.Time.Instant
import LiveTail.Number.Binary
/-! Offsets of events from the base time in whole seconds. -/
namespace LiveTail

/-- Milliseconds to the nearest second, a half going up, in 64-bit floating-point numbers. -/
def nearestSecond (ms : Int) : Int :=
  let f := BinaryFormat.double
  let seconds := (Binary.ofInt f ms).div f (.ofInt f 1000)
  (seconds.add f (.ofDecimal f false 5 (-1))).floor

/-- The seconds from a base time to another time. -/
def offsetSeconds (base time : Instant) : Int := nearestSecond (time.millisFrom base)

end LiveTail
