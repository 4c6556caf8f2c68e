import LiveTail.Url.Basic
import LiveTail.Url.Idna
import LiveTail.Url.Percent
import LiveTail.Text.Blank
/-! Reading URLs as browsers do: much is mended, and what is left is an error. -/
namespace LiveTail.Url

/-! ### Hosts -/

/-- The text of some bytes, if they form one. -/
def textOfBytes? (bytes : List UInt8) : Option (List Char) :=
  (String.fromUTF8? ⟨bytes.toArray⟩).map String.toList

/-- An address in brackets. -/
def readBracketed (cs : List Char) : Except UrlFault Host :=
  match cs.reverse with
  | ']' :: r =>
    match Ipv6.ofText? (r.reverse.drop 1) with
    | some ps => .ok (.ipv6 ps)
    | none => .error .invalidIpv6
  | _ => .error .invalidIpv6

/-- A host by name or address. -/
def readHost (cs : List Char) : Except UrlFault Host :=
  if cs.head? = some '[' then readBracketed cs
  else match (textOfBytes? (Percent.decode cs)).bind Idna.toAscii? with
    | none => .error .invalidDomain
    | some [] => .error .emptyHost
    | some name =>
      if Ipv4.endsInNumber name then
        match Ipv4.ofText? name with
        | some n => .ok (.ipv4 n)
        | none => .error .invalidIpv4
      else .ok (.name name)

/-- Characters that stand in no host of a scheme without rules of its own. -/
def isForbiddenHostChar (c : Char) : Bool :=
  ['\x00', '\t', '\n', '\r', ' ', '#', '/', ':', '<', '>', '?', '@', '[', '\\', ']', '^',
    '|'].contains c

/-- A host that is kept as it is. -/
def readOpaqueHost (cs : List Char) : Except UrlFault Host :=
  if cs.head? = some '[' then readBracketed cs
  else if cs.any isForbiddenHostChar then .error .invalidDomainCharacter
  else .ok (.name (Percent.encode Percent.isControl cs))

/-! ### The authority -/

/-- What ends an authority. -/
def endsAuthority (kind : SchemeKind) (c : Char) : Bool :=
  c = '/' || c = '?' || c = '#' || (c = '\\' && kind ≠ .other)

/-- The text before the last `c`, and that after it. -/
def cutLast (c : Char) (cs : List Char) : Option (List Char × List Char) :=
  match Text.cut c cs.reverse with
  | (_, none) => none
  | (tail, some head) => some (head.reverse, tail.reverse)

/-- User name and password, percent-encoded. -/
def readCredentials (cs : List Char) : List Char × List Char :=
  match Text.cut ':' cs with
  | (user, none) => (Percent.encode Percent.userSet user, [])
  | (user, some password) =>
    (Percent.encode Percent.userSet user, Percent.encode Percent.userSet password)

/-- The text up to the colon of a port; colons in brackets are part of the host. -/
def splitPort (inside : Bool) : List Char → List Char × Option (List Char)
  | [] => ([], none)
  | c :: r =>
    if c = ':' && !inside then ([], some r)
    else
      let (host, port) := splitPort (if c = '[' then true else if c = ']' then false else inside) r
      (c :: host, port)

/-- A port: digits up to the end or a backslash; none if it is that of the scheme. The text behind
it is left. -/
def readPort (scheme : String) (cs : List Char) : Except UrlFault (Option Nat × List Char) :=
  let digits := cs.takeWhile Char.isDigit
  let n := Text.digitsValue digits
  if 65535 < n then .error .invalidPort
  else
    let port := if digits.isEmpty || defaultPort? scheme = some n then none else some n
    match cs.dropWhile Char.isDigit with
    | [] => .ok (port, [])
    | '\\' :: r => .ok (port, '\\' :: r)
    | _ => .error .invalidPort

/-- Host and port, behind user name and password. -/
def readHostPort (scheme : String) (user password cs : List Char) :
    Except UrlFault (Authority × List Char) := do
  let (hostText, portText) := splitPort false cs
  if schemeKind scheme = .hosted && hostText.isEmpty then throw .emptyHost
  let host ← if schemeKind scheme = .other then readOpaqueHost hostText else readHost hostText
  let host := if host = .name [] then none else some host
  match portText with
  | none =>
    if host.isNone && !(user.isEmpty && password.isEmpty) then throw .emptyHost
    return (⟨user, password, host, none⟩, [])
  | some text =>
    if host.isNone then throw .emptyHost
    let (port, r) ← readPort scheme text
    return (⟨user, password, host, port⟩, r)

/-- The authority at the start of a text, and the rest of the text. -/
def readAuthority (scheme : String) (cs : List Char) :
    Except UrlFault (Authority × List Char) := do
  let kind := schemeKind scheme
  let text := cs.takeWhile (fun c => !endsAuthority kind c)
  let rest := cs.dropWhile (fun c => !endsAuthority kind c)
  match cutLast '@' text with
  | none =>
    let (a, r) ← readHostPort scheme [] [] text
    return (a, r ++ rest)
  | some ([], host) =>
    if host.isEmpty && !rest.isEmpty then throw .emptyHost
    let (a, r) ← readHostPort scheme [] [] host
    return (a, r ++ rest)
  | some (credentials, host) =>
    let (user, password) := readCredentials credentials
    let (a, r) ← readHostPort scheme user password host
    return (a, r ++ rest)

/-! ### Path, query and fragment -/

/-- A letter and a colon or bar. -/
def isDriveLetter : List Char → Bool
  | [c, d] => c.isAlpha && (d = ':' || d = '|')
  | _ => false

/-- A point, plain or percent-encoded, at the start of a segment. -/
def dropDot : List Char → Option (List Char)
  | '.' :: r | '%' :: '2' :: 'e' :: r | '%' :: '2' :: 'E' :: r => some r
  | _ => none

def isSingleDot (segment : List Char) : Bool := dropDot segment = some []

def isDoubleDot (segment : List Char) : Bool := (dropDot segment).bind dropDot = some []

/-- Takes the last directory off, unless it is a drive letter. -/
def popDirectory (dirs : List (List Char)) : List (List Char) :=
  match dirs with
  | d :: r => if isDriveLetter d then d :: r else r
  | [] => []

/-- A segment of a file's path; the first may be a drive letter, which gets a colon. -/
def normalSegment (kind : SchemeKind) (dirs : List (List Char)) (segment : List Char) :
    List Char :=
  if kind = .file && dirs.isEmpty && isDriveLetter segment then segment.take 1 ++ [':'] else segment

/-- The path of some segments: dot segments are resolved. `dirs` holds the directories so far, the
last first. -/
def resolveSegments (kind : SchemeKind) (dirs : List (List Char)) : List (List Char) → List Char
  | [] => []
  | [s] =>
    let path (dirs : List (List Char)) : List Char := '/' :: dirs.reverse.flatMap (· ++ ['/'])
    if isDoubleDot s then path (popDirectory dirs)
    else if isSingleDot s then path dirs
    else path dirs ++ normalSegment kind dirs s
  | s :: t :: r =>
    if isDoubleDot s then resolveSegments kind (popDirectory dirs) (t :: r)
    else if isSingleDot s then resolveSegments kind dirs (t :: r)
    else resolveSegments kind (normalSegment kind dirs s :: dirs) (t :: r)

/-- A slash, or a backslash where it stands for one. -/
def isSlash (kind : SchemeKind) (c : Char) : Bool := c = '/' || (c = '\\' && kind ≠ .other)

/-- The segments of a path behind its first slash. -/
def segments (kind : SchemeKind) (cs : List Char) : List (List Char) :=
  (Text.splitOn '/' (cs.map (fun c => if isSlash kind c then '/' else c))).map
    (Percent.encode Percent.pathSet)

/-- A path behind its first slash, which it gets. -/
def readRooted (kind : SchemeKind) (cs : List Char) : List Char :=
  let path := resolveSegments kind [] (segments kind cs)
  if kind = .file then '/' :: path.dropWhile (· = '/') else path

/-- The path after an authority. -/
def readPath (kind : SchemeKind) (cs : List Char) : List Char :=
  match cs with
  | [] => if kind = .other then [] else ['/']
  | c :: r => if isSlash kind c then readRooted kind r else readRooted kind (c :: r)

/-- The text before query and fragment, the query and the fragment. -/
def splitSuffix (cs : List Char) : List Char × Option (List Char) × Option (List Char) :=
  let (rest, fragment) := Text.cut '#' cs
  let (path, query) := Text.cut '?' rest
  (path, query, fragment)

/-- A URL from its parts; query and fragment are percent-encoded. -/
def assemble (scheme : String) (authority : Option Authority) (path : List Char)
    (query fragment : Option (List Char)) : Url where
  scheme := scheme
  authority := authority
  path := path
  query := query.map
    (Percent.encode (if schemeKind scheme = .other then Percent.querySet
      else Percent.specialQuerySet))
  fragment := fragment.map (Percent.encode Percent.fragmentSet)

/-! ### Whole URLs -/

/-- A scheme before its colon, in lower case, and the text behind. -/
def readScheme? (cs : List Char) : Option (String × List Char) :=
  match Text.cut ':' cs with
  | (c :: r, some rest) =>
    if c.isAlpha && r.all (fun d => d.isAlphanum || d = '+' || d = '-' || d = '.') then
      some (.ofList ((c :: r).map Char.toLower), rest)
    else none
  | _ => none

/-- The rest of a URL with an authority. -/
def readHosted (scheme : String) (cs : List Char) : Except UrlFault Url := do
  let (authority, rest) ← readAuthority scheme cs
  let (path, query, fragment) := splitSuffix rest
  return assemble scheme (some authority) (readPath (schemeKind scheme) path) query fragment

/-- The rest of the URL of a file, of which a host may be named. -/
def readFile (cs : List Char) : Except UrlFault Url := do
  let (text, query, fragment) := splitSuffix cs
  let isSep (c : Char) : Bool := isSlash .file c
  match text with
  | a :: b :: r =>
    if isSep a && isSep b then
      let hostText := r.takeWhile (fun c => !isSep c)
      if hostText.isEmpty || isDriveLetter hostText then
        return assemble "file" (some ⟨[], [], none, none⟩) (readPath .file r) query fragment
      else
        let host ← readHost hostText
        let host := if host = .name "localhost".toList then none else some host
        return assemble "file" (some ⟨[], [], host, none⟩)
          (readPath .file (r.dropWhile (fun c => !isSep c))) query fragment
    else return assemble "file" (some ⟨[], [], none, none⟩) (readPath .file text) query fragment
  | _ => return assemble "file" (some ⟨[], [], none, none⟩) (readPath .file text) query fragment

/-- The rest of a URL of a scheme without rules of its own. -/
def readOther (scheme : String) (cs : List Char) : Except UrlFault Url :=
  match cs with
  | '/' :: '/' :: r => readHosted scheme r
  | cs =>
    let (text, query, fragment) := splitSuffix cs
    let path := match text with
      | '/' :: r => readRooted .other r
      | r => Percent.encode Percent.isControl r
    .ok (assemble scheme none path query fragment)

/-- Controls and spaces, which are trimmed from a URL. -/
def isTrimmed (c : Char) : Bool := c.toNat ≤ 0x20

/-- Tabs and line ends count nowhere in a URL. -/
def isSkipped (c : Char) : Bool := c = '\t' || c = '\n' || c = '\r'

/-- The URL of a text. -/
def parse (text : List Char) : Except UrlFault Url :=
  let cs := (Text.dropTail isTrimmed (text.dropWhile isTrimmed)).filter (fun c => !isSkipped c)
  match readScheme? cs with
  | none => .error .relative
  | some (scheme, rest) =>
    match schemeKind scheme with
    | .hosted => readHosted scheme (rest.dropWhile (isSlash .hosted))
    | .file => readFile rest
    | .other => readOther scheme rest

end LiveTail.Url
