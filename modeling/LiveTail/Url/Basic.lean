import LiveTail.Url.Ipv4
import LiveTail.Url.Ipv6
/-! URLs in their parts, and the text of a URL. -/
namespace LiveTail

/-- A host; a name is in ASCII. -/
inductive Host where
  | name (cs : List Char)
  | ipv4 (address : Nat)
  | ipv6 (pieces : List Nat)
  deriving DecidableEq, Repr

def Host.toText : Host → List Char
  | .name cs => cs
  | .ipv4 n => Ipv4.toText n
  | .ipv6 ps => '[' :: Ipv6.toText ps ++ [']']

/-- What stands between two slashes and the path. User name and password are percent-encoded; a port
is there if it is not the one of the scheme. -/
structure Authority where
  user : List Char
  password : List Char
  host : Option Host
  port : Option Nat
  deriving DecidableEq, Repr

/-- A URL. Path, query and fragment are percent-encoded. -/
structure Url where
  scheme : String
  authority : Option Authority
  path : List Char
  query : Option (List Char)
  fragment : Option (List Char)
  deriving DecidableEq, Repr

/-- Why a text is no URL. -/
inductive UrlFault where
  | emptyHost
  | invalidDomain
  | invalidPort
  | invalidIpv4
  | invalidIpv6
  | invalidDomainCharacter
  | relative
  deriving DecidableEq, Repr

def UrlFault.message : UrlFault → String
  | .emptyHost => "empty host"
  | .invalidDomain => "invalid international domain name"
  | .invalidPort => "invalid port number"
  | .invalidIpv4 => "invalid IPv4 address"
  | .invalidIpv6 => "invalid IPv6 address"
  | .invalidDomainCharacter => "invalid domain character"
  | .relative => "relative URL without a base"

/-- The kinds of schemes: those of a host and a path, that of files, and all others. -/
inductive SchemeKind where
  | hosted
  | file
  | other
  deriving DecidableEq, Repr

namespace Url

def schemeKind (scheme : String) : SchemeKind :=
  if ["http", "https", "ws", "wss", "ftp"].contains scheme then .hosted
  else if scheme = "file" then .file
  else .other

/-- The port that a scheme has if none is given. -/
def defaultPort? (scheme : String) : Option Nat :=
  if ["http", "ws"].contains scheme then some 80
  else if ["https", "wss"].contains scheme then some 443
  else if scheme = "ftp" then some 21
  else none

end Url

namespace Authority

/-- User name and password with the sign behind them. -/
def credentials (a : Authority) : List Char :=
  if a.user.isEmpty && a.password.isEmpty then []
  else a.user ++ (if a.password.isEmpty then [] else ':' :: a.password) ++ ['@']

def hostText (a : Authority) : List Char := (a.host.map Host.toText).getD []

def toText (a : Authority) : List Char :=
  a.credentials ++ a.hostText ++
    match a.port with
    | some p => ':' :: Text.numeral p
    | none => []

end Authority

namespace Url

/-- The text up to the query. A path that starts with two slashes does not look like an
authority. -/
def baseText (u : Url) : List Char :=
  u.scheme.toList ++ ':' ::
    match u.authority, u.path with
    | some a, path => '/' :: '/' :: a.toText ++ path
    | none, '/' :: '/' :: path => '/' :: '.' :: '/' :: '/' :: path
    | none, path => path

/-- The text without the fragment. -/
def plainText (u : Url) : List Char :=
  u.baseText ++
    match u.query with
    | some q => '?' :: q
    | none => []

def toText (u : Url) : String :=
  .ofList (u.plainText ++
    match u.fragment with
    | some f => '#' :: f
    | none => [])

/-- The host as it stands in the URL. -/
def hostText? (u : Url) : Option String :=
  u.authority.bind (fun a => a.host.map (fun h => .ofList h.toText))

def port? (u : Url) : Option Nat := u.authority.bind Authority.port

end Url

end LiveTail
