import LiveTail.Time.Instant
import LiveTail.Text.Numeral
/-! The texts of an instant: the form of RFC 3339, and the forms that are shown. -/
namespace LiveTail.Instant

/-- A year has four digits; outside 0 to 9999 it has a sign too. -/
def yearText (y : Int) : List Char :=
  if 0 ≤ y && y ≤ 9999 then Text.fixedNumeral 4 y.natAbs
  else (if y < 0 then '-' else '+') :: Text.fixedNumeral 4 y.natAbs

def dateText (t : Instant) : List Char :=
  let d := Date.ofDays t.day
  yearText d.year ++ '-' :: Text.fixedNumeral 2 d.month ++ '-' :: Text.fixedNumeral 2 d.day

/-- Hours, minutes and seconds; a leap second is second 60. -/
def clockText (t : Instant) : List Char :=
  Text.fixedNumeral 2 (t.second / 3600) ++ ':' :: Text.fixedNumeral 2 (t.second / 60 % 60) ++
    ':' :: Text.fixedNumeral 2 (t.second % 60 + (if t.isLeap then 1 else 0))

/-- The fraction of a second in 0, 3, 6 or 9 digits, as few as are exact. -/
def fractionText (t : Instant) : List Char :=
  let n := t.nano % 1000000000
  if n = 0 then []
  else if n % 1000000 = 0 then '.' :: Text.fixedNumeral 3 (n / 1000000)
  else if n % 1000 = 0 then '.' :: Text.fixedNumeral 6 (n / 1000)
  else '.' :: Text.fixedNumeral 9 n

/-- The form of RFC 3339, with the offset in digits. -/
def toText (t : Instant) : String :=
  .ofList (t.dateText ++ 'T' :: t.clockText ++ t.fractionText) ++ "+00:00"

/-- Date and time in milliseconds, as it is shown in tooltips. -/
def fullText (t : Instant) : String :=
  .ofList (t.dateText ++ ' ' :: t.clockText ++
    '.' :: Text.fixedNumeral 3 (t.nano % 1000000000 / 1000000)) ++ " UTC"

end LiveTail.Instant
