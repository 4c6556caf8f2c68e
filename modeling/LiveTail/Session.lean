import LiveTail.Connection.Manager
import LiveTail.Stream
/-! The session: a connection, the log stream it feeds, and the selector that is being followed. -/
namespace LiveTail

/-- What one batch of events did. -/
structure Summary where
  events : Nat
  rowsAppended : Nat
  protocolErrors : Nat
  cleared : Bool
  stateChanged : Bool
  deriving DecidableEq, Repr

/-- A session. The last selector is the one sent last, or the one to be sent when the socket
opens. Frames that are no message are counted without a bound; a counter of 64 bits counts the same
for fewer than 2 ^ 64 of them. -/
structure Session where
  connection : Connection
  stream : LogStream
  lastQuery : Option String
  protocolErrors : Nat
  serverError : Option String
  transportError : Option String
  deriving DecidableEq, Repr

namespace Session

def new (connection : Connection) (base : Instant) (maxRows : Nat) : Session :=
  ⟨connection, .empty base maxRows, none, 0, none, none⟩

def state (s : Session) : ConnectionState := s.connection.state

def connect (s : Session) : Session :=
  { s with transportError := none, connection := s.connection.connect }

def close (s : Session) : Session := { s with connection := s.connection.close }

/-- Sends a selector, and remembers it if it went out. -/
def submit (s : Session) (selector : String) : Except ConnectionFault Unit × Session :=
  match s.connection.sendQuery selector with
  | (.error f, c) => (.error f, { s with connection := c })
  | (.ok (), c) =>
    (.ok (), { s with connection := c, lastQuery := some selector, serverError := none })

/-- Remembers a selector, which goes out when the socket opens. -/
def queue (s : Session) (selector : String) : Session := { s with lastQuery := some selector }

/-- A session and the counts of a batch so far. -/
structure Batch where
  session : Session
  rowsAppended : Nat := 0
  protocolErrors : Nat := 0
  cleared : Bool := false

/-- The text of an error that the backend reports. -/
def errorText (text : String) (detail : Option String) : String :=
  match detail with
  | some d => text ++ ": " ++ d
  | none => text

/-- Handles a frame. Objects without a type, such as a greeting, are passed over in silence. -/
def handleFrame (b : Batch) (frame : String) : Batch :=
  let (result, stream) := b.session.stream.handleFrame frame
  let s := { b.session with stream := stream }
  match result with
  | .ok .appended => { b with session := s, rowsAppended := b.rowsAppended + 1 }
  | .ok (.cleared _) => { b with session := s, cleared := true }
  | .ok (.baseTimeSet _) => { b with session := s }
  | .ok (.serverError text detail) =>
    { b with session := { s with serverError := some (errorText text detail) } }
  | .error .missingType => { b with session := s }
  | .error _ =>
    { b with
      session := { s with protocolErrors := s.protocolErrors + 1 }
      protocolErrors := b.protocolErrors + 1 }

/-- Sends the remembered selector again. -/
def resend (s : Session) : Session :=
  match s.lastQuery with
  | none => s
  | some selector => { s with connection := (s.connection.sendQuery selector).2 }

/-- What an event does besides changing the state; `current` tells that the socket it opened is not
replaced or closed later in the batch. -/
def dispatch (b : Batch) (e : Event) (current : Bool) : Batch :=
  match e with
  | .connecting _ => b
  | .opened =>
    let s := { b.session with transportError := none }
    { b with session := if current then s.resend else s }
  | .frame text => handleFrame b text
  | .error message => { b with session := { b.session with transportError := some message } }
  | .closed _ => b

/-- Events that make an earlier open socket outdated. -/
def isTransition : Event → Bool
  | .opened | .closed _ => true
  | _ => false

/-- Applies the state change of an event, then what else it does. -/
def handleOne (b : Batch) (e : Event) (current : Bool) : Batch :=
  dispatch { b with session := { b.session with connection := b.session.connection.apply e } } e
    current

/-- Handles events in order. The selector is sent again only for an opened socket that no later
event of the batch replaces or closes. -/
def handleAll (b : Batch) : List Event → Batch
  | [] => b
  | e :: r => handleAll (handleOne b e (isTransition e && !r.any isTransition)) r

/-- Handles a batch of events. -/
def handleEvents (s : Session) (events : List Event) : Summary × Session :=
  let b := handleAll { session := s } events
  (⟨events.length, b.rowsAppended, b.protocolErrors, b.cleared, b.session.state ≠ s.state⟩,
    b.session)

/-- Takes up to `budget` events from the worker and handles them. -/
def pump (s : Session) (budget : Option Nat) : Summary × Session :=
  let (events, c) := s.connection.drain budget
  { s with connection := c }.handleEvents events

end Session

end LiveTail
