import LiveTail.Connection.Fault
import LiveTail.Connection.Link
import LiveTail.Protocol.Selector
/-! The connection: at most one attached worker at a time, the state it is shown in, and the workers
that were let go and have still to end. -/
namespace LiveTail

/-- A means to close a worker's connection from anywhere: the number of the worker. -/
structure ShutdownHook where
  serial : Nat
  deriving DecidableEq, Repr

/-- The connection as the viewer sees it. `current` is the attached worker, `former` holds those
before it, the latest first, and `started` counts all of them. -/
structure Connection where
  policy : ReconnectPolicy
  state : ConnectionState
  current : Option Link
  former : List Link
  started : Nat
  deriving DecidableEq, Repr

namespace Connection

def new (policy : ReconnectPolicy) : Connection := ⟨policy, .disconnected, none, [], 0⟩

/-- Whether a worker is attached. -/
def isActive (c : Connection) : Bool := c.current.isSome

/-- Lets go of the attached worker. -/
def detach (c : Connection) : Connection :=
  match c.current with
  | some l => { c with current := none, former := l.detach :: c.former }
  | none => c

/-- Starts a new worker; the one before it is let go, and its events are dropped. -/
def connect (c : Connection) : Connection :=
  let c := c.detach
  { c with
    state := .connecting
    current := some (.start c.started c.policy)
    started := c.started + 1 }

/-- Closes the connection; what is still under way is dropped. -/
def close (c : Connection) : Connection := { c.detach with state := .disconnected }

/-- Gives a command to the attached worker. -/
def give (c : Connection) (command : Command) : Connection :=
  { c with current := c.current.map (·.give command) }

/-- Sends a selector as it is. Nothing is kept for later: it fails unless the socket is open. A
command to a worker that is gone is lost. -/
def sendQuery (c : Connection) (selector : String) : Except ConnectionFault Unit × Connection :=
  if c.state ≠ .connected then (.error (.notConnected c.state.label), c)
  else match c.current with
    | none => (.error .workerGone, c)
    | some l =>
      let result := if l.worker.isGone then .error .workerGone else .ok ()
      (result, c.give (.send (selectorFrame selector)))

/-- Takes up to `budget` events out of the queue, in order; no budget takes all. -/
def drain (c : Connection) (budget : Option Nat) : List Event × Connection :=
  match c.current with
  | none => ([], c)
  | some l =>
    let n := budget.getD l.events.length
    (l.events.take n, { c with current := some { l with events := l.events.drop n } })

/-- The state after an event. -/
def apply (c : Connection) (e : Event) : Connection := { c with state := c.state.after e }

/-- Takes events out of the queue and applies them. -/
def poll (c : Connection) (budget : Option Nat) : List Event × Connection :=
  let (events, c) := c.drain budget
  (events, events.foldl apply c)

/-- A hook for the attached worker. -/
def hook (c : Connection) : Option ShutdownHook × Connection :=
  match c.current with
  | none => (none, c)
  | some l => (some ⟨l.serial⟩, { c with current := some { l with senders := l.senders + 1 } })

/-- Changes the worker of a number. -/
def modify (c : Connection) (serial : Nat) (f : Link → Link) : Connection :=
  let change (l : Link) : Link := if l.serial = serial then f l else l
  { c with current := c.current.map change, former := c.former.map change }

/-- Asks the worker of a hook to close; it is a fault of nobody if that worker is gone. -/
def fire (c : Connection) (h : ShutdownHook) : Connection := c.modify h.serial (·.give .close)

/-- A hook is given up. -/
def dropHook (c : Connection) (h : ShutdownHook) : Connection :=
  c.modify h.serial (fun l => { l with senders := l.senders - 1 })

/-- One step of the worker of a number. -/
def step (c : Connection) (serial : Nat) (outside : Reply) : Connection :=
  c.modify serial (·.step outside)

end Connection

end LiveTail
