import LiveTail.Time.Instant
import LiveTail.Text.Blank
import LiveTail.Text.Numeral
/-! Instants written as text: by RFC 3339, as milliseconds after the epoch, or as a date and time
without a zone, which is taken as universal time. -/
namespace LiveTail

/-- A time of day; second 60 is a leap second. -/
structure Clock where
  hour : Nat
  minute : Nat
  second : Nat
  nano : Nat

namespace Clock

def isValid (c : Clock) : Bool := c.hour < 24 && c.minute < 60 && c.second ≤ 60

/-- The second of the day; a leap second belongs to the one before it. -/
def secondOfDay (c : Clock) : Nat := c.hour * 3600 + c.minute * 60 + min c.second 59

def nanos (c : Clock) : Nat := if c.second = 60 then c.nano + 1000000000 else c.nano

end Clock

namespace Instant

/-- The instant of a date and time of day, a number of minutes ahead of universal time. -/
def ofDateTime? (d : Date) (c : Clock) (ahead : Int) : Option Instant :=
  if d.isValid && c.isValid then
    let seconds : Int := d.toDays * 86400 + c.secondOfDay - ahead * 60
    if firstDay ≤ d.toDays && d.toDays ≤ lastDay then
      of? (seconds / 86400) (seconds % 86400).toNat c.nanos
    else none
  else none

/-- Takes one character. -/
def readChar? (c : Char) : List Char → Option (List Char)
  | d :: r => if d = c then some r else none
  | [] => none

/-- Takes exactly `n` digits. -/
def readFixed? (n : Nat) (cs : List Char) : Option (Nat × List Char) :=
  let ds := cs.take n
  if ds.length = n && ds.all Char.isDigit then some (Text.digitsValue ds, cs.drop n) else none

/-- Takes the digits of a fraction, at least one of them, as nanoseconds; those past the ninth do
not count. -/
def readNanos? (cs : List Char) : Option (Nat × List Char) :=
  let ds := cs.takeWhile Char.isDigit
  if ds.isEmpty then none
  else some (Text.digitsValue ((ds ++ List.replicate 9 '0').take 9), cs.dropWhile Char.isDigit)

/-- Takes a point and a fraction, if a point comes next. -/
def readFraction? (cs : List Char) : Option (Nat × List Char) :=
  match cs with
  | '.' :: r => readNanos? r
  | r => some (0, r)

/-- Takes a zone: the letter, or a sign with hours and minutes. -/
def readZone? (cs : List Char) : Option (Int × List Char) :=
  match cs with
  | 'Z' :: r | 'z' :: r => some (0, r)
  | sign :: r => do
    if sign = '+' || sign = '-' || sign = '\u2212' then
      let (h, r) ← readFixed? 2 r
      let r ← readChar? ':' r
      let (m, r) ← readFixed? 2 r
      if h < 24 && m < 60 then
        let minutes : Int := h * 60 + m
        some (if sign = '+' then minutes else -minutes, r)
      else none
    else none
  | [] => none

/-- Reads the form of RFC 3339. -/
def ofZoned? (cs : List Char) : Option Instant := do
  let (y, cs) ← readFixed? 4 cs
  let cs ← readChar? '-' cs
  let (mo, cs) ← readFixed? 2 cs
  let cs ← readChar? '-' cs
  let (d, cs) ← readFixed? 2 cs
  match cs with
  | [] => none
  | t :: cs =>
    if t = 'T' || t = 't' || t = ' ' then
      let (h, cs) ← readFixed? 2 cs
      let cs ← readChar? ':' cs
      let (mi, cs) ← readFixed? 2 cs
      let cs ← readChar? ':' cs
      let (s, cs) ← readFixed? 2 cs
      let (n, cs) ← readFraction? cs
      let (zone, cs) ← readZone? cs
      if cs.isEmpty then ofDateTime? ⟨y, mo, d⟩ ⟨h, mi, s, n⟩ zone else none
    else none

/-- Takes at least one digit and at most `n`. -/
def readUpTo? (n : Nat) (cs : List Char) : Option (Nat × List Char) :=
  let ds := (cs.take n).takeWhile Char.isDigit
  if ds.isEmpty then none else some (Text.digitsValue ds, cs.drop ds.length)

/-- Takes white space and a number of one or two digits. -/
def readPart? (cs : List Char) : Option (Nat × List Char) := readUpTo? 2 (Text.trimStart cs)

/-- Takes white space and a year: up to four digits, or a sign and any number of them. -/
def readYear? (cs : List Char) : Option (Int × List Char) :=
  match Text.trimStart cs with
  | '+' :: r => (readUpTo? r.length r).map (fun p => ((p.1 : Int), p.2))
  | '-' :: r => (readUpTo? r.length r).map (fun p => (-(p.1 : Int), p.2))
  | r => (readUpTo? 4 r).map (fun p => ((p.1 : Int), p.2))

/-- What stands between the date and the time of day. -/
inductive Separator where
  | blank
  | letter
  deriving DecidableEq, Repr

/-- Takes any white space, or exactly the letter. -/
def Separator.read? (s : Separator) (cs : List Char) : Option (List Char) :=
  match s with
  | .blank => some (Text.trimStart cs)
  | .letter => readChar? 'T' cs

/-- Reads a date and a time of day without a zone, which may have a fraction if `fraction` is
set. -/
def ofLocal? (separator : Separator) (fraction : Bool) (cs : List Char) : Option Instant := do
  let (y, cs) ← readYear? cs
  let cs ← readChar? '-' cs
  let (mo, cs) ← readPart? cs
  let cs ← readChar? '-' cs
  let (d, cs) ← readPart? cs
  let cs ← separator.read? cs
  let (h, cs) ← readPart? cs
  let cs ← readChar? ':' cs
  let (mi, cs) ← readPart? cs
  let cs ← readChar? ':' cs
  let (s, cs) ← readPart? cs
  let (n, cs) ← if fraction then readFraction? cs else some (0, cs)
  if cs.isEmpty then ofDateTime? ⟨y, mo, d⟩ ⟨h, mi, s, n⟩ 0 else none

/-- The forms without a zone, in the order in which they are tried. -/
def localForms : List (Separator × Bool) :=
  [(.blank, true), (.letter, true), (.blank, false), (.letter, false)]

/-- Reads an instant in one of the forms, in white space. -/
def ofText? (text : String) : Option Instant :=
  let cs := Text.trim text.toList
  match ofZoned? cs with
  | some t => some t
  | none =>
    match Text.readInt64? cs with
    | some ms => ofMillis? ms
    | none => localForms.findSome? (fun form => ofLocal? form.1 form.2 cs)

end Instant

end LiveTail
