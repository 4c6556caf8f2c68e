import LiveTail.Url.Setters
/-! The streaming socket that belongs to a page: the page's URL with a WebSocket scheme and one more
path segment, without query and fragment. -/
namespace LiveTail

/-- Why a page has no socket. -/
inductive EndpointFault where
  | invalidUrl (input : String) (source : UrlFault)
  | unsupportedScheme (input scheme : String)
  | schemeFixed (input : String)
  deriving DecidableEq, Repr

namespace EndpointFault

def message : EndpointFault → String
  | .invalidUrl input source => "'" ++ input ++ "' is not a valid page URL: " ++ source.message
  | .unsupportedScheme input scheme =>
    "'" ++ input ++ "' uses scheme '" ++ scheme ++ "'. Expected http, https, ws or wss."
  | .schemeFixed input =>
    "cannot rewrite the scheme of '" ++ input ++ "' to a WebSocket scheme"

/-- The messages of the faults behind this one. -/
def causes : EndpointFault → List String
  | .invalidUrl _ source => [source.message]
  | _ => []

end EndpointFault

/-- The WebSocket scheme of a page's scheme. -/
def socketScheme? (scheme : String) : Option String :=
  if ["http", "ws"].contains scheme then some "ws"
  else if ["https", "wss"].contains scheme then some "wss"
  else none

/-- The path of the socket below that of the page. -/
def socketPath (path : List Char) : List Char :=
  (if path.getLast? = some '/' then path else path ++ ['/']) ++ "socket".toList

/-- The URL of the socket of a page. -/
def socketEndpoint (pageUrl : String) : Except EndpointFault Url :=
  let cs := Text.trim pageUrl.toList
  let input := String.ofList cs
  match Url.parse cs with
  | .error f => .error (.invalidUrl input f)
  | .ok url =>
    match socketScheme? url.scheme with
    | none => .error (.unsupportedScheme input url.scheme)
    | some scheme =>
      match url.setScheme? scheme with
      | none => .error (.schemeFixed input)
      | some socket =>
        .ok ({ socket with query := none, fragment := none }.setPath (socketPath url.path))

end LiveTail
