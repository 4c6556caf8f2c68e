import LiveTail.CommandLine.Switch
import LiveTail.Text.Lines
import LiveTail.Text.Similarity
/-! The arguments of the program, read from the words of a command line. -/
namespace LiveTail

/-- What the command line says. -/
structure Arguments where
  pageUrl : Option String := none
  query : Option String := none
  reconnect : Bool := false
  debug : Bool := false
  deriving DecidableEq, Repr

/-- Why the program does not start: it was asked for help or its version, or the command line makes
no sense. `used` are the switches that a hint on the usage lists. -/
inductive CommandLineStop where
  | help (detailed : Bool)
  | version
  | missingValue (s : Switch)
  | extraValue (value : String) (s : Switch) (used : List Switch)
  | repeated (s : Switch)
  | unknown (word : String) (similar : Option Switch) (quotable : Bool)
    (used : Option (List Switch))
  deriving DecidableEq, Repr

namespace CommandLineStop

/-- Whether the command line is at fault. -/
def isFault : CommandLineStop → Bool
  | .help _ | .version => false
  | _ => true

/-- What is printed in front of the last hint of a fault. -/
def reason : CommandLineStop → String
  | .missingValue s => "a value is required for '" ++ s.shown ++ "' but none was supplied\n"
  | .extraValue value s used =>
    "unexpected value '" ++ value ++ "' for '" ++ s.shown ++ "' found; no more were expected\n\n" ++
      usageLine (some used) ++ "\n"
  | .repeated s =>
    "the argument '" ++ s.shown ++ "' cannot be used multiple times\n\n" ++ usageLine none ++ "\n"
  | .unknown word similar quotable used =>
    let tip := match similar with
      | some s => "  tip: a similar argument exists: '--" ++ s.long ++ "'\n\n"
      | none =>
        if quotable then "  tip: to pass '" ++ word ++ "' as a value, use '-- " ++ word ++ "'\n\n"
        else ""
    "unexpected argument '" ++ word ++ "' found\n\n" ++ tip ++ usageLine used ++ "\n"
  | _ => ""

/-- All that is printed. -/
def message (s : CommandLineStop) : String :=
  match s with
  | .help detailed => if detailed then manual else summary
  | .version => Program.name ++ " " ++ Program.version ++ "\n"
  | s => "error: " ++ s.reason ++ "\nFor more information, try '--help'.\n"

end CommandLineStop

namespace Arguments

/-- A word whose argument may still change: the page, or the query, whose value may be missing. -/
inductive Pending where
  | page (url : String)
  | query (value : Option String)
  deriving DecidableEq, Repr

/-- The arguments so far, the switches among them in order, and whether the page has been named and
all further words are values. -/
structure Progress where
  arguments : Arguments := {}
  used : List Switch := []
  pending : Option Pending := none
  placed : Bool := false
  trailing : Bool := false
  deriving DecidableEq, Repr

namespace Progress

/-- Whether a switch has been given. -/
def has (p : Progress) (s : Switch) : Bool := p.used.contains s

/-- Notes a switch that may be given once. -/
def note (p : Progress) (s : Switch) (set : Arguments → Arguments) :
    Except CommandLineStop Progress :=
  if p.has s then .error (.repeated s)
  else .ok { p with arguments := set p.arguments, used := p.used ++ [s] }

def noteQuery (p : Progress) (value : String) : Except CommandLineStop Progress :=
  p.note .query (fun a => { a with query := some value })

/-- Takes over what is pending. -/
def settle (p : Progress) : Except CommandLineStop Progress :=
  let q := { p with pending := none }
  match p.pending with
  | none => .ok p
  | some (.page url) => .ok { q with arguments := { p.arguments with pageUrl := some url } }
  | some (.query none) => .error (.missingValue .query)
  | some (.query (some value)) => q.noteQuery value

/-- Takes over what is pending, but drops a switch that is at fault. -/
def settleLoosely (p : Progress) : Progress :=
  match p.settle with
  | .ok q => q
  | .error (.repeated s) => { p with used := p.used.erase s }
  | .error _ => p

/-- A switch without a value. -/
def flag (p : Progress) (s : Switch) (detailed : Bool) : Except CommandLineStop Progress := do
  let p ← p.settle
  match s with
  | .help => throw (.help detailed)
  | .version => throw .version
  | .reconnect => p.note s (fun a => { a with reconnect := true })
  | .debug => p.note s (fun a => { a with debug := true })
  | .query => return p

/-- A switch whose value is attached or still to come. -/
def option (p : Progress) (value : Option (List Char)) : Except CommandLineStop Progress := do
  let p ← p.settle
  match value with
  | some v => p.noteQuery (.ofList v)
  | none => return { p with pending := some (.query none) }

/-- The value attached to a short switch, with or without an equals sign. -/
def attached? : List Char → Option (List Char)
  | [] => none
  | '=' :: r => some r
  | r => some r

/-- Short switches in one word; what follows one with a value is that value. -/
def shorts (p : Progress) : List Char → Except CommandLineStop Progress
  | [] => .ok p
  | c :: r =>
    match Switch.ofShort? c with
    | none => .error (.unknown ("-" ++ c.toString) none true none)
    | some s =>
      if s.takesValue then p.option (attached? r)
      else
        match p.flag s false with
        | .ok p => p.shorts r
        | .error e => .error e

/-- Words have to be more alike than this for one to be proposed in place of the other. -/
def alikeness : Binary := .ofDecimal .double false 7 (-1)

/-- The switch most like a name, if there is one like it. -/
def similar? (name : List Char) : Option Switch :=
  let best := Switch.all.foldl (fun best s =>
    let score := Text.similarity name s.long.toList
    if score.le alikeness then best
    else match best with
      | some (_, top) => if Binary.le top score then some (s, score) else best
      | none => some (s, score)) (none : Option (Switch × Binary))
  best.map (fun b => b.1)

/-- The switches to list in a hint on the usage, together with one more. -/
def listed (p : Progress) (more : List Switch) : List Switch :=
  p.used ++ more.filter (fun s => !p.has s)

/-- A long name that is no switch. -/
def unknown (p : Progress) (name : List Char) : CommandLineStop :=
  let p := p.settleLoosely
  let similar := similar? name
  let used := p.listed similar.toList
  .unknown ("--" ++ .ofList name) similar true
    (if used.isEmpty && p.arguments.pageUrl.isNone then none else some used)

/-- A long switch, perhaps with a value behind an equals sign. -/
def long (p : Progress) (word : List Char) : Except CommandLineStop Progress :=
  let (name, value) := Text.cut '=' word
  match Switch.ofLong? (.ofList name) with
  | none => .error (p.unknown name)
  | some s =>
    if s.takesValue then p.option value
    else match value with
      | some v => .error (.extraValue (.ofList v) s (p.listed [s]))
      | none => p.flag s true

/-- A word that is no switch: the page, of which there is only one. -/
def place (p : Progress) (word : String) : Except CommandLineStop Progress :=
  if p.placed then .error (.unknown word none false none)
  else do
    let p ← p.settle
    return { p with pending := some (.page word), placed := true }

/-- A word that may be the value of the switch before it. -/
def value (p : Progress) (word : String) : Except CommandLineStop Progress :=
  match p.pending with
  | some (.query none) => .ok { p with pending := some (.query (some word)) }
  | _ => p.place word

/-- The next word. -/
def next (p : Progress) (word : String) : Except CommandLineStop Progress :=
  if p.trailing then p.place word
  else match word.toList with
    | ['-', '-'] => .ok { p with trailing := true }
    | '-' :: '-' :: r => p.long r
    | '-' :: c :: r => p.shorts (c :: r)
    | _ => p.value word

/-- The words in order. -/
def read (p : Progress) : List String → Except CommandLineStop Progress
  | [] => p.settle
  | word :: r =>
    match p.next word with
    | .ok p => p.read r
    | .error e => .error e

end Progress

/-- The arguments of a command line. -/
def ofWords (words : List String) : Except CommandLineStop Arguments :=
  match Progress.read {} words with
  | .ok p => .ok p.arguments
  | .error e => .error e

end Arguments

end LiveTail
