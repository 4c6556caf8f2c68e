import LiveTail.Log.Row
/-! The log table: the newest row at the top, in order of arrival. Rows leave it only when it is
cleared or, if it has a cap, at the bottom. -/
namespace LiveTail

/-- The rows from the top, the greatest number of them if there is one, and how many have ever been
added. The last has no bound; a counter of 64 bits counts the same for fewer than 2 ^ 64 rows. -/
structure LogTable where
  rows : List LogRow
  cap : Option Nat
  received : Nat
  deriving DecidableEq, Repr

namespace LogTable

/-- An empty table; a cap of 0 is none. -/
def empty (maxRows : Nat) : LogTable :=
  ⟨[], if maxRows = 0 then none else some maxRows, 0⟩

/-- Keeps at most as many as the cap allows. -/
def limit (cap : Option Nat) (rows : List LogRow) : List LogRow :=
  match cap with
  | some n => rows.take n
  | none => rows

/-- Adds the row of an event at the top. -/
def prepend (t : LogTable) (base : Instant) (e : LogEvent) : LogTable :=
  { t with
    rows := limit t.cap (.ofEvent base t.received e :: t.rows)
    received := t.received + 1 }

/-- Removes every row. -/
def clear (t : LogTable) : LogTable := { t with rows := [] }

def size (t : LogTable) : Nat := t.rows.length

def top? (t : LogTable) : Option LogRow := t.rows.head?

/-- The row of an arrival number. -/
def find? (t : LogTable) (seq : Nat) : Option LogRow := t.rows.find? (fun r => r.seq == seq)

end LogTable

end LiveTail
