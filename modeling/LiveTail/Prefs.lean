import LiveTail.Files.Plan
import LiveTail.Json.Record
import LiveTail.Number.Word
/-! Preferences: the page and the last selector, which outlive the program. They are saved so that
an interrupted save leaves the earlier ones, and what cannot be loaded counts as absent. -/
namespace LiveTail

/-- What is kept in the file of preferences. -/
structure Preferences where
  version : Nat
  pageUrl : Option String
  lastQuery : Option String
  deriving DecidableEq, Repr

namespace Preferences

/-- The version of the file that is written and read. -/
def currentVersion : Nat := 1

def new (pageUrl lastQuery : Option String) : Preferences := ⟨currentVersion, pageUrl, lastQuery⟩

/-- The file of preferences in a data directory. -/
def filePath (dataDir : String) : String := Path.join dataDir "prefs.json"

/-! ### Text -/

/-- A member on a line of its own. -/
def memberLine (m : String × Json) : List Char :=
  ' ' :: ' ' :: Json.quote m.1 ++ ':' :: ' ' :: m.2.render

/-- Members on lines of their own, with commas between them. -/
def memberLines : List (String × Json) → List Char
  | [] => []
  | [m] => memberLine m ++ ['\n']
  | m :: n :: r => memberLine m ++ ',' :: '\n' :: memberLines (n :: r)

/-- The text that is saved. -/
def render (p : Preferences) : String :=
  .ofList ('\x7b' :: '\n' :: memberLines
    [("version", .integer p.version), ("page_url", .ofText? p.pageUrl),
      ("last_query", .ofText? p.lastQuery)] ++ ['\x7d'])

/-- Reads a whole number below `2 ^ 32`. -/
def readVersion (_depth : Nat) (cs : List Char) :
    Except Json.Stop ((Preferences → Preferences) × List Char) :=
  match Json.skipSpace cs with
  | [] => .error (.next .endInValue [])
  | c :: r =>
    if c = '-' || c.isDigit then do
      let (v, r) ← Json.readScalar c r
      match v with
      | .number (.integer n) =>
        if 0 ≤ n && n < (Word.count 32 : Int) then
          return (fun p => { p with version := n.toNat }, r)
        else throw (.shape (.invalidValue (.ofValue v) "u32") r)
      | v => throw (.shape (.invalidType (.ofValue v) "u32") r)
    else Json.readMismatch "u32" (c :: r)

/-- Reads a text or null. -/
def readText (set : Preferences → Option String → Preferences) (_depth : Nat) (cs : List Char) :
    Except Json.Stop ((Preferences → Preferences) × List Char) :=
  match Json.skipSpace cs with
  | 'n' :: r => do
    let r ← Json.readLiteral ['u', 'l', 'l'] r
    return (fun p => set p none, r)
  | '"' :: r => do
    let (s, r) ← Json.readString r
    return (fun p => set p (some (.ofList s)), r)
  | r => Json.readMismatch "a string" r

def schema : Json.Schema Preferences where
  name := "PrefsData"
  fields := [⟨"version", true, readVersion⟩,
    ⟨"page_url", false, readText (fun p s => { p with pageUrl := s })⟩,
    ⟨"last_query", false, readText (fun p s => { p with lastQuery := s })⟩]

/-- The preferences of a text, whatever their version. -/
def ofText (text : String) : Except Json.Fault Preferences := schema.ofText ⟨0, none, none⟩ text

/-! ### Saving -/

/-- Why preferences could not be saved. -/
inductive SaveFault where
  | directory (path : String) (cause : FileFault)
  | temporary (path : String) (cause : FileFault)
  | final (path : String) (cause : FileFault)
  deriving DecidableEq, Repr

def SaveFault.message : SaveFault → String
  | .directory path cause => "cannot create prefs directory '" ++ path ++ "': " ++ cause.message
  | .temporary path cause => "failed to write prefs temp file '" ++ path ++ "': " ++ cause.message
  | .final path cause => "failed to finalise prefs file '" ++ path ++ "': " ++ cause.message

/-- The file that is written before it takes the place of the old one. -/
def temporaryPath (path : String) : String := Path.withExtension "json.tmp" path

/-- Writes the temporary file and gives it the name of the file of preferences. -/
def replacePlan (p : Preferences) (path : String) : Plan (Except SaveFault Unit) :=
  let temporary := temporaryPath path
  .act (.write temporary p.render.toUTF8.toList) (fun
    | .error e => .done (.error (.temporary temporary e))
    | .ok () =>
      .act (.rename temporary path) (fun
        | .ok () => .done (.ok ())
        | .error e => .act (.remove temporary) (fun _ => .done (.error (.final path e)))))

/-- How preferences are saved: the directory is made first. -/
def savePlan (p : Preferences) (path : String) : Plan (Except SaveFault Unit) :=
  match Path.parent? path with
  | none => replacePlan p path
  | some dir =>
    (Plan.makeDirectories (Path.ancestors dir.length dir)).andThen (fun
      | .error e => .done (.error (.directory dir e))
      | .ok () => replacePlan p path)

def save (p : Preferences) (path : String) (fs : FileSystem) : Except SaveFault Unit × FileSystem :=
  (savePlan p path).run fs

/-! ### Loading -/

/-- How loading went. -/
inductive Loading where
  | missing
  | unreadable (cause : FileFault)
  | malformed (cause : Json.Fault)
  | otherVersion (version : Nat)
  | loaded (p : Preferences)
  deriving DecidableEq, Repr

/-- Tries to load the preferences at a path. -/
def inspect (fs : FileSystem) (path : String) : Loading :=
  match fs.readText path with
  | .error .notFound => .missing
  | .error e => .unreadable e
  | .ok text =>
    match ofText text with
    | .error f => .malformed f
    | .ok p => if p.version = currentVersion then .loaded p else .otherVersion p.version

def Loading.result? : Loading → Option Preferences
  | .loaded p => some p
  | _ => none

/-- The preferences at a path, if they can be loaded. -/
def load (fs : FileSystem) (path : String) : Option Preferences := (inspect fs path).result?

end Preferences

/-- The page that is opened if none is named. -/
def defaultPageUrl : String := "http://127.0.0.1:8080/"

/-- The page to open: from the command line, the configuration or the preferences, in this order. -/
def resolvePageUrl (argument configured saved : Option String) : String :=
  ((argument.or configured).or saved).getD defaultPageUrl

end LiveTail
