import LiveTail.CommandLine.Arguments
import LiveTail.Config.Validate
import LiveTail.Failure
import LiveTail.Files.Directories
import LiveTail.Journal.Basic
import LiveTail.Screen.Window
/-! The launch of the program: from the command line, the configuration and the preferences to the
window, or to the reason why there is none. -/
namespace LiveTail

/-- What the program finds around it: the words of the command line, the time, what is set in the
environment, and the files. -/
structure Surroundings where
  words : List String
  now : Instant := .epoch
  home : Option String := none
  configHome : Option String := none
  dataHome : Option String := none
  filter : Option String := none
  files : FileSystem
  deriving DecidableEq, Repr

/-- How a launch went: the window if there is one, the exit code otherwise, what was printed, and
the journal. -/
structure Launch where
  window : Option Window
  exitCode : Nat
  output : String
  journal : Journal
  files : FileSystem
  deriving DecidableEq, Repr

namespace Launch

/-- The filter of the journal: the one that is set, else that of the switch, of the configuration,
or the usual one. -/
def chooseFilter (set : Option String) (debug : Bool) (configured : Option String) :
    JournalFilter :=
  .ofText ((set.or (if debug then some "debug" else configured)).getD "info")

/-- Opens the journal. If its file cannot be opened it is printed. -/
def openJournal (filter : JournalFilter) (file : Option String) (files : FileSystem) :
    Journal × FileSystem :=
  let ready (j : Journal) : Journal :=
    j.write .debug .journal ("Logging initialised" ++
      JournalEntry.quotedField "app" Program.title ++
      JournalEntry.quotedField "version" Program.version)
  match file with
  | none => (ready { filter }, files)
  | some path =>
    match files.append path [] with
    | .error e =>
      (ready (({ filter } : Journal).print
        ("Warning: cannot open log file '" ++ path ++ "': " ++ e.message ++
          ". Logging to stderr.")),
        files)
    | .ok files =>
      (ready (({ filter, file := some path } : Journal).write .debug .journal
        ("Logging to file" ++ JournalEntry.quotedField "file" path)), files)

/-- Notes the start and the warnings on the configuration. -/
def noteStart (debug : Bool) (warnings : List ConfigWarning) (j : Journal) : Journal :=
  let j := j.write .info .launch (Program.title ++ " starting" ++
    JournalEntry.quotedField "version" Program.version ++
    JournalEntry.field "debug" (if debug then "true" else "false"))
  warnings.foldl (fun j w =>
    j.write .warn .launch ("Configuration warning" ++ JournalEntry.field "warning" w.message)) j

/-- Notes how the loading of the preferences went. -/
def noteLoading (path : String) (l : Preferences.Loading) (j : Journal) : Journal :=
  let place := JournalEntry.field "path" path
  match l with
  | .missing => j
  | .unreadable e =>
    j.write .debug .preferences
      ("Cannot read prefs file" ++ place ++ JournalEntry.field "error" e.message)
  | .malformed e =>
    j.write .warn .preferences
      ("Prefs file is malformed, ignoring" ++ place ++ JournalEntry.field "error" e.message)
  | .otherVersion n =>
    j.write .warn .preferences ("Prefs file version mismatch, ignoring" ++
      JournalEntry.field "found" (Config.showNat n) ++
      JournalEntry.field "expected" (Config.showNat Preferences.currentVersion))
  | .loaded _ => j.write .info .preferences ("Preferences loaded" ++ place)

/-- The policy on reconnecting: the switch or the configuration ask for it. -/
def policyOf (a : Arguments) (c : Config) : ReconnectPolicy :=
  if a.reconnect || c.reconnect then .withBackoff (.ofMillis c.initialMs) (.ofMillis c.longestMs)
  else .disabled

/-- The session on a page, which starts to connect. -/
def startSession (now : Instant) (a : Arguments) (c : Config) (pageUrl : String)
    (query : Option String) : Except Failure (Session × Url) :=
  match socketEndpoint pageUrl with
  | .error f => .error (.endpoint f)
  | .ok url =>
    let s := Session.new (.new (policyOf a c)) now c.maxRows
    let s := match query with
      | some q => s.queue q
      | none => s
    .ok (s.connect, url)

/-- The window of a session. -/
def openWindow (c : Config) (warnings : List ConfigWarning) (pageUrl : String) (s : Session)
    (endpoint : Url) : Window where
  screen := { Screen.new s endpoint.toText pageUrl with
    theme := if c.dark then .dark else .light
    warnings := warnings.map ConfigWarning.message }

/-- The launch with arguments that make sense. The query of the command line goes before the one
that was saved. -/
def start (s : Surroundings) (a : Arguments) : Launch :=
  let dirs := Directories.resolve s.home s.configHome s.dataHome
  let (config, warnings) := Config.load s.files dirs.config
  let filter := chooseFilter s.filter a.debug config.logLevel
  let (journal, files) := openJournal filter config.logFile s.files
  let journal := noteStart a.debug warnings journal
  let prefsPath := Preferences.filePath dirs.data
  let loading := Preferences.inspect files prefsPath
  let journal := noteLoading prefsPath loading journal
  let saved := loading.result?
  let pageUrl := resolvePageUrl a.pageUrl config.pageUrl (saved.bind Preferences.pageUrl)
  let query := a.query.or (saved.bind Preferences.lastQuery)
  match startSession s.now a config pageUrl query with
  | .ok (session, endpoint) =>
    ⟨some (openWindow config warnings pageUrl session endpoint), 0, "", journal, files⟩
  | .error f =>
    let journal := journal.write .error .launch ("Cannot start session" ++
      JournalEntry.field "error" f.message ++ JournalEntry.field "page_url" pageUrl)
    ⟨none, 2, "", journal.print ("Error: " ++ f.message), files⟩

/-- The launch from the command line on. Help and version are all the output there is; what is wrong
with the command line is printed. -/
def run (s : Surroundings) : Launch :=
  match Arguments.ofWords s.words with
  | .ok a => start s a
  | .error stop =>
    let journal : Journal := { filter := [] }
    if stop.isFault then ⟨none, 2, "", journal.print stop.message, s.files⟩
    else ⟨none, 0, stop.message, journal, s.files⟩

/-- The lines of a file after the launch, with the entries of the journal if that is the file. -/
def fileLines (l : Launch) (path : String) : Option (List Printed) :=
  match l.files.readText path with
  | .error _ => none
  | .ok text =>
    let place := Path.locate l.files.cwd path
    let isJournal := l.journal.file.any (fun f => Path.locate l.files.cwd f == place)
    some (Printed.ofText text ++
      if isJournal then l.journal.written.flatMap Printed.ofEntry else [])

end Launch

end LiveTail
