import LiveTail.Screen.Theme
import LiveTail.Session
/-! The state of the window: the session, the selector being typed, the selected row and the status
line. -/
namespace LiveTail

/-- The state of the window. A row is selected by its number, so that rows may come above it. -/
structure Screen where
  session : Session
  endpoint : String
  pageUrl : String
  input : String
  selected : Option Nat
  status : String
  warnings : List String
  theme : Theme
  deriving DecidableEq, Repr

namespace Screen

/-- The window as it opens; a selector that waits to be sent stands in the input. -/
def new (session : Session) (endpoint pageUrl : String) : Screen :=
  ⟨session, endpoint, pageUrl, session.lastQuery.getD "", none, "Ready.", [], .dark⟩

/-- Sends the selector that stands in the input. -/
def submit (s : Screen) : Screen :=
  match s.session.submit s.input with
  | (.ok (), session) =>
    { s with
      session := session
      status := if s.input.isEmpty then "Following all events." else "Query sent: " ++ s.input }
  | (.error _, session) =>
    { s with session := session, status := "Query not sent: " ++ session.state.label }

/-- Opens the connection again. -/
def reconnect (s : Screen) : Screen :=
  { s with session := s.session.connect, status := "Connecting to " ++ s.endpoint }

/-- Closes the connection. -/
def disconnect (s : Screen) : Screen :=
  { s with session := s.session.close, status := "Disconnected." }

/-- The status line after the state changed. -/
def stateStatus (s : Screen) : String :=
  match s.session.state with
  | .connecting => "Connecting to " ++ s.endpoint
  | .connected => "Connected to " ++ s.endpoint
  | .disconnected =>
    match s.session.transportError with
    | some reason => "Disconnected: " ++ reason
    | none => "Disconnected."

/-- Takes events from the worker. The selection ends with its row, and at the latest when the table
is cleared. -/
def pump (s : Screen) (budget : Option Nat) : Summary × Screen :=
  let (summary, session) := s.session.pump budget
  let selected := (if summary.cleared then none else s.selected).filter
    (fun seq => (session.stream.table.find? seq).isSome)
  let s := { s with session := session, selected := selected }
  (summary, if summary.stateChanged then { s with status := s.stateStatus } else s)

/-- The selected row, if it is still in the table. -/
def selectedRow? (s : Screen) : Option LogRow := s.selected.bind s.session.stream.table.find?

/-- A click on a row selects it, or ends its selection. -/
def toggleRow (s : Screen) (seq : Nat) : Screen :=
  { s with selected := if s.selected = some seq then none else some seq }

end Screen

end LiveTail
