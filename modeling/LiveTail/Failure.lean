import LiveTail.Connection.Fault
import LiveTail.Endpoint
import LiveTail.Protocol.Fault
/-! What can go wrong, by the part of the program that it goes wrong in. -/
namespace LiveTail

/-- A fault of the endpoint, the connection or the protocol. -/
inductive Failure where
  | endpoint (fault : EndpointFault)
  | connection (fault : ConnectionFault)
  | protocol (fault : ProtocolFault)
  deriving DecidableEq, Repr

namespace Failure

/-- The messages of the fault and of those behind it. -/
def causes : Failure → List String
  | .endpoint f => f.message :: f.causes
  | .connection f => f.message :: f.causes
  | .protocol f => f.message :: f.causes

def message : Failure → String
  | .endpoint f => "Endpoint error: " ++ f.message
  | .connection f => "Connection error: " ++ f.message
  | .protocol f => "Protocol error: " ++ f.message

/-- The messages from the failure to its first cause. -/
def chain (f : Failure) : List String := f.message :: f.causes

end Failure

end LiveTail
