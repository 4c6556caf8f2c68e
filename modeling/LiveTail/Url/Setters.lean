import LiveTail.Url.Parser
/-! Changing one part of a URL. A new part is read as it would be in a text, so what the parser
mends or refuses in a text is mended or refused here as well. -/
namespace LiveTail

/-- The authority behind a scheme, whose own port is left out. -/
def Authority.behind (a : Authority) (scheme : String) : Authority :=
  { a with port := a.port.filter (fun p => Url.defaultPort? scheme ≠ some p) }

namespace Url

def host? (u : Url) : Option Host := u.authority.bind Authority.host

/-- Another scheme, given without its colon; none if the URL cannot have it. A scheme of a host and
a path needs a host and never comes in place of one without rules of its own, or the other way
round. -/
def setScheme? (u : Url) (text : String) : Option Url :=
  match readScheme? (text.toList ++ [':']) with
  | some (scheme, []) =>
    let fits := match schemeKind scheme, schemeKind u.scheme with
      | .hosted, .hosted | .hosted, .file => u.host?.isSome
      | .other, .other => true
      | _, _ => false
    if fits then
      some { u with scheme := scheme, authority := u.authority.map (·.behind scheme) }
    else none
  | _ => none

/-- Another path of segments. It is read up to its end: question marks and number signs are part of
it. -/
def setPath (u : Url) (path : List Char) : Url :=
  { u with path := readPath (schemeKind u.scheme) (path.filter (fun c => !isSkipped c)) }

end Url

end LiveTail
