import LiveTail.Connection.Manager
/-! A rehearsal of a connection: the workers run against a backend in memory that follows a script,
until each of them rests. -/
namespace LiveTail

/-- What an attempt to open a socket comes to. -/
inductive Outcome where
  | accepted
  | refused (message : String)
  deriving DecidableEq, Repr

/-- What a socket has for its reader. -/
inductive Inbound where
  | text (frame : String)
  | nothing
  | ended
  | failed (message : String)
  deriving DecidableEq, Repr

/-- A backend in memory: the outcomes of the next attempts, what the open socket has still to
deliver, the fault of the next send, and what has been seen of the workers. -/
structure Backend where
  outcomes : List Outcome := []
  inbound : List Inbound := []
  sendFault : Option String := none
  attempts : Nat := 0
  closes : Nat := 0
  sent : List String := []
  backoffs : List Duration := []
  deriving DecidableEq, Repr

namespace Backend

/-- Longer delays do not end during a rehearsal. -/
def patience : Duration := .ofMillis 1000

/-- Takes the outcome of an attempt; a new socket has nothing to deliver. A worker that was let go
gives up. -/
def connectReply (b : Backend) (l : Link) : Option (Reply × Backend) :=
  if !l.heard then some (.failed "", b)
  else
    match b.outcomes with
    | [] => none
    | .accepted :: r => some (.opened, { b with outcomes := r, inbound := [], sendFault := none })
    | .refused message :: r => some (.failed message, { b with outcomes := r })

/-- Writes a text, unless a fault is due. -/
def sendReply (b : Backend) (text : String) : Reply × Backend :=
  match b.sendFault with
  | some message => (.failed message, { b with sendFault := none })
  | none => (.done, { b with sent := b.sent ++ [text] })

/-- Delivers what comes next; with nothing left a worker looks only for commands. -/
def receiveReply (b : Backend) (l : Link) : Option (Reply × Backend) :=
  match b.inbound with
  | [] => if l.commands.isEmpty then none else some (.nothing, b)
  | item :: r =>
    let b := { b with inbound := r }
    some (match item with
      | .text frame => (.text frame, b)
      | .nothing => (.nothing, b)
      | .ended => (.ended, b)
      | .failed message => (.failed message, b))

/-- A delay of nothing is over at once, before a command is read. -/
def waitReply (l : Link) (delay : Duration) : Option Reply :=
  if delay.nanos = 0 then some .elapsed
  else if !l.commands.isEmpty then some .nothing
  else if delay.nanos ≤ patience.nanos then some .elapsed
  else none

/-- The reply to the call of a worker; none if the worker rests. -/
def reply? (b : Backend) (l : Link) : Option (Reply × Backend) :=
  match l.worker.call with
  | .post _ | .poll => some (.done, b)
  | .connect => b.connectReply l
  | .send text => some (b.sendReply text)
  | .receive => if l.heard then b.receiveReply l else some (.nothing, b)
  | .close => some (.done, { b with closes := b.closes + 1 })
  | .wait delay => (waitReply l delay).map (fun r => (r, b))
  | .rest => none

/-- Notes the attempt or the delay that a worker enters. -/
def note (b : Backend) (before after : Worker) : Backend :=
  if before.phase = after.phase then b
  else match after.call with
    | .connect => { b with attempts := b.attempts + 1 }
    | .wait delay => { b with backoffs := b.backoffs ++ [delay] }
    | _ => b

/-- Lets a worker go on until it rests, for at most a number of calls. -/
def runLink : Nat → Link → Backend → Link × Backend
  | 0, l, b => (l, b)
  | n + 1, l, b =>
    match b.reply? l with
    | none => (l, b)
    | some (r, b) =>
      let l' := l.step r
      runLink n l' (b.note l.worker l'.worker)

/-- More calls than a worker can make before it rests: each outcome, item and command leads to fewer
than sixteen. -/
def callLimit (b : Backend) (l : Link) : Nat :=
  16 * (b.outcomes.length + b.inbound.length + l.commands.length + 2)

/-- Lets a worker go on until it rests. -/
def settleLink (b : Backend) (l : Link) : Link × Backend := runLink (b.callLimit l) l b

/-- Lets every worker of a connection go on until it rests; those that were let go come to their
end. -/
def settle (b : Backend) (c : Connection) : Connection × Backend :=
  let (former, b) := c.former.foldr (fun l p =>
    let (l, b) := p.2.settleLink l
    (l :: p.1, b)) ([], b)
  match c.current with
  | none => ({ c with former := former }, b)
  | some l =>
    let (l, b) := b.settleLink l
    ({ c with current := some l, former := former }, b)

/-- Whether the attached worker has an open socket. -/
def isOpen (c : Connection) : Bool :=
  match c.current with
  | some l => l.worker.phase == .receiving
  | none => false

end Backend

end LiveTail
