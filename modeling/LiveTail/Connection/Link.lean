import LiveTail.Connection.Worker
/-! A worker with its two queues: the events it posted and the commands it was given. -/
namespace LiveTail

/-- A worker, its number, and its queues. Events are lost once nobody listens to them; commands come
from `senders` places, of which the manager is one as long as it listens. -/
structure Link where
  serial : Nat
  worker : Worker
  events : List Event
  heard : Bool
  commands : List Command
  senders : Nat
  deriving DecidableEq, Repr

namespace Link

/-- A new worker with empty queues. -/
def start (serial : Nat) (policy : ReconnectPolicy) : Link :=
  ⟨serial, .start policy, [], true, [], 1⟩

/-- Gives a command, if the worker still takes any. -/
def give (l : Link) (c : Command) : Link :=
  if l.worker.isGone then l else { l with commands := l.commands ++ [c] }

/-- The worker goes on by a reply. -/
def reply (l : Link) (r : Reply) : Link :=
  let w := l.worker.resume r
  { l with worker := w, commands := if w.isGone then [] else l.commands }

/-- The next command, if there is one, and what a look for commands finds. -/
def nextCommand (l : Link) : Reply × List Command :=
  match l.commands with
  | c :: r => (.command c, r)
  | [] => (if l.senders = 0 then .abandoned else .nothing, [])

/-- Makes the worker's next call. Posts and looks for commands are answered by the queues; `outside`
is the reply of what lies outside: the connector, the transport, and for a wait the clock, which may
let the time run out before a command is read. -/
def step (l : Link) (outside : Reply) : Link :=
  match l.worker.call with
  | .post e =>
    if l.heard then { l with events := l.events ++ [e] }.reply .done else l.reply .lost
  | .poll =>
    let (r, commands) := l.nextCommand
    { l with commands := commands }.reply r
  | .wait _ =>
    if outside = .elapsed then l.reply .elapsed
    else
      let (r, commands) := l.nextCommand
      { l with commands := commands }.reply r
  | .connect | .send _ | .receive | .close => l.reply outside
  | .rest => l

/-- The manager lets go of the worker: it asks it to close and listens no longer. -/
def detach (l : Link) : Link :=
  { l.give .close with events := [], heard := false, senders := l.senders - 1 }

end Link

end LiveTail
