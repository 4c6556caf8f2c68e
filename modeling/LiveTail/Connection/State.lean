/-! The life of the one streaming socket: its states, and the events that its worker reports. -/
namespace LiveTail

inductive ConnectionState where
  | connecting
  | connected
  | disconnected
  deriving DecidableEq, Repr

namespace ConnectionState

instance : Inhabited ConnectionState := ⟨disconnected⟩

def all : List ConnectionState := [.connecting, .connected, .disconnected]

def label : ConnectionState → String
  | .connecting => "connecting"
  | .connected => "connected"
  | .disconnected => "disconnected"

/-- The name that the state goes by in the window. -/
def marker (s : ConnectionState) : String := "weblog-" ++ s.label

end ConnectionState

/-- Why a connection ended: closed on this side, closed by the backend, or by a failure. -/
inductive CloseReason where
  | here
  | remote
  | failed
  deriving DecidableEq, Repr

/-- What a worker reports. Attempts count from 1, and again after each that opened, without a bound;
an error is followed by the end of the connection. -/
inductive Event where
  | connecting (attempt : Nat)
  | opened
  | frame (text : String)
  | error (message : String)
  | closed (reason : CloseReason)
  deriving DecidableEq, Repr

/-- The state after an event. -/
def ConnectionState.after (s : ConnectionState) : Event → ConnectionState
  | .connecting _ => .connecting
  | .opened => .connected
  | .error _ | .closed _ => .disconnected
  | .frame _ => s

end LiveTail
