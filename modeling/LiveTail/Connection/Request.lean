import LiveTail.Connection.Fault
import LiveTail.Url.Basic
/-! Requests for a socket: the URLs that a request can be made for, and what comes of one that no
server answers. -/
namespace LiveTail

/-- Why no request can be made for a URL. -/
inductive RequestFault where
  | tooLong
  | schemeTooLong
  | invalidCharacter
  | invalidAuthority
  | invalidFormat
  deriving DecidableEq, Repr

def RequestFault.message : RequestFault → String
  | .tooLong => "uri too long"
  | .schemeTooLong => "scheme too long"
  | .invalidCharacter => "invalid uri character"
  | .invalidAuthority => "invalid authority"
  | .invalidFormat => "invalid format"

/-- What has been seen of an authority: colons since the last `@` or bracket, the brackets, whether
a percent sign may stand in the host, and whether the last character is `@`. -/
structure AuthorityScan where
  colons : Nat := 0
  opened : Bool := false
  shut : Bool := false
  percent : Bool := false
  atSign : Bool := false
  deriving DecidableEq, Repr

namespace AuthorityScan

/-- The most colons between two other signs; an IPv6 address and its port need them. -/
def maxColons : Nat := 8

/-- Characters that stand for themselves in an authority. -/
def isPlain (c : Char) : Bool := c.isAlphanum || "!$&'()*+,-.;=_~".toList.contains c

/-- The next character. -/
def next (s : AuthorityScan) (c : Char) : Except RequestFault AuthorityScan :=
  if c = ':' then
    if s.colons < maxColons then .ok { s with colons := s.colons + 1, atSign := false }
    else .error .invalidAuthority
  else if c = '[' then
    if s.percent || s.opened then .error .invalidAuthority
    else .ok { s with opened := true, atSign := false }
  else if c = ']' then
    if !s.opened || s.shut then .error .invalidAuthority
    else .ok { s with shut := true, colons := 0, percent := false, atSign := false }
  else if c = '@' then .ok { s with colons := 0, percent := false, atSign := true }
  else if c = '%' then .ok { s with percent := true, atSign := false }
  else if isPlain c then .ok { s with atSign := false }
  else .error .invalidCharacter

/-- Whether an authority may end here: at most one colon for a port, and a host. -/
def isComplete (s : AuthorityScan) : Bool :=
  s.opened == s.shut && s.colons ≤ 1 && !s.atSign && !s.percent

end AuthorityScan

namespace Request

/-- The longest text and the longest scheme that a request can have. -/
def maxLength : Nat := 65534

def maxScheme : Nat := 64

/-- The text behind an authority, which ends at a slash, a question mark or a number sign. -/
def skipAuthority (s : AuthorityScan) : List Char → Except RequestFault (List Char)
  | [] => if s.isComplete then .ok [] else .error .invalidAuthority
  | c :: r =>
    if c = '/' || c = '?' || c = '#' then
      if s.isComplete then .ok (c :: r) else .error .invalidAuthority
    else
      match s.next c with
      | .ok s => skipAuthority s r
      | .error f => .error f

/-- The scheme before `://` and the text behind; all of the text if there is none. -/
def splitScheme (cs : List Char) : Option (List Char) × List Char :=
  match Text.cut ':' cs with
  | (scheme, some ('/' :: '/' :: r)) => (some scheme, r)
  | _ => (none, cs)

/-- The scheme of the text of a URL, if it has one before `://`. A text without one has to be an
authority as a whole. -/
def scheme? (cs : List Char) : Except RequestFault (Option String) :=
  if maxLength < cs.length then .error .tooLong
  else
    let (scheme, authority) := splitScheme cs
    match scheme with
    | none =>
      match skipAuthority {} authority with
      | .error f => .error f
      | .ok rest => if rest.isEmpty then .ok none else .error .invalidFormat
    | some scheme =>
      if maxScheme < scheme.length then .error .schemeTooLong
      else
        match skipAuthority {} authority with
        | .error f => .error f
        | .ok rest =>
          if rest.length = authority.length then .error .invalidFormat
          else .ok (some (.ofList scheme))

/-- What a request for a socket ends with if no server answers it. -/
def unanswered (url : Url) : SocketFault :=
  match scheme? url.toText.toList with
  | .error f => .invalidRequest f.message
  | .ok scheme =>
    if scheme = some "ws" || scheme = some "wss" then .unreachable (.ofList url.plainText)
    else .unsupportedScheme

end Request

end LiveTail
