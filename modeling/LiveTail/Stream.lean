import LiveTail.Log.Table
import LiveTail.Protocol.Message
/-! The log stream: frames are decoded and applied, one after the other, to the base time and the
table. -/
namespace LiveTail

/-- The base time and the table it is applied to. -/
structure LogStream where
  base : Instant
  table : LogTable
  deriving DecidableEq, Repr

/-- What a message did. -/
inductive Dispatch where
  | cleared (removed : Nat)
  | baseTimeSet (time : Instant)
  | appended
  | serverError (text : String) (detail : Option String)
  deriving DecidableEq, Repr

namespace LogStream

def empty (base : Instant) (maxRows : Nat) : LogStream := ⟨base, .empty maxRows⟩

/-- Applies a message; rows that are there keep their offsets when the base time changes. -/
def apply (s : LogStream) : Message → Dispatch × LogStream
  | .clear => (.cleared s.table.size, { s with table := s.table.clear })
  | .baseTime t => (.baseTimeSet t, { s with base := t })
  | .log e => (.appended, { s with table := s.table.prepend s.base e })
  | .serverError text detail => (.serverError text detail, s)

/-- Decodes a frame and applies it; a frame that is no message changes nothing. -/
def handleFrame (s : LogStream) (frame : String) : Except ProtocolFault Dispatch × LogStream :=
  match Message.decode frame with
  | .error f => (.error f, s)
  | .ok m =>
    let (d, s) := s.apply m
    (.ok d, s)

end LogStream

end LiveTail
