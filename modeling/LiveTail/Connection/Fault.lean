/-! What can go wrong with a connection. -/
namespace LiveTail

/-- What a WebSocket reports. -/
inductive SocketFault where
  | closed
  | alreadyClosed
  | invalidText
  | reset
  | io (reason : String)
  | unreachable (url : String)
  | unsupportedScheme
  | invalidRequest (reason : String)
  deriving DecidableEq, Repr

namespace SocketFault

/-- The message of the fault behind this one, if there is one. -/
def reason? : SocketFault → Option String
  | .reset => some "Connection reset without closing handshake"
  | .io reason => some reason
  | .unreachable url => some ("Unable to connect to " ++ url)
  | .unsupportedScheme => some "URL scheme not supported"
  | .invalidRequest reason => some reason
  | _ => none

def message (f : SocketFault) : String :=
  let reason := f.reason?.getD ""
  match f with
  | .closed => "Connection closed normally"
  | .alreadyClosed => "Trying to work with closed connection"
  | .invalidText => "UTF-8 encoding error"
  | .reset => "WebSocket protocol error: " ++ reason
  | .io _ => "IO error: " ++ reason
  | .unreachable _ | .unsupportedScheme => "URL error: " ++ reason
  | .invalidRequest _ => "HTTP format error: " ++ reason

def causes (f : SocketFault) : List String := f.reason?.toList

end SocketFault

/-- Why something could not be done with a connection. -/
inductive ConnectionFault where
  | notConnected (state : String)
  | connect (endpoint : String) (cause : SocketFault)
  | send (cause : SocketFault)
  | receive (cause : SocketFault)
  | io (operation reason : String)
  | workerGone
  deriving DecidableEq, Repr

namespace ConnectionFault

def message : ConnectionFault → String
  | .notConnected state => "socket is not open (state: " ++ state ++ ")"
  | .connect endpoint cause => "cannot connect to '" ++ endpoint ++ "': " ++ cause.message
  | .send cause => "send failed: " ++ cause.message
  | .receive cause => "receive failed: " ++ cause.message
  | .io operation reason => "I/O error during " ++ operation ++ ": " ++ reason
  | .workerGone => "connection worker has stopped"

/-- The messages of the faults behind this one. -/
def causes : ConnectionFault → List String
  | .connect _ cause | .send cause | .receive cause => cause.message :: cause.causes
  | .io _ reason => [reason]
  | _ => []

end ConnectionFault

end LiveTail
