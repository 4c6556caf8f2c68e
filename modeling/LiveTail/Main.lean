import LiveTail.Launch
/-! The command: it looks at the files around it, launches, and prints what came of it. -/
namespace LiveTail.Command

/-- What can be read at a path: the bytes of a file, a directory, or nothing. -/
def look (path : String) : IO (Option FileNode) := do
  try
    return some (.file (← IO.FS.readBinFile path).toList)
  catch
    | .inappropriateType .. => return some .directory
    | _ => return none

/-- Adds what is at a path, and at the directories above it. -/
def gather (fs : FileSystem) (path : String) : IO FileSystem := do
  let mut fs := fs
  for p in (Path.ancestors path.length path).reverse do
    if let some node ← look p then
      fs := fs.set (Path.locate fs.cwd p) node
  return fs

/-- The line of an entry. -/
def entryLine (e : JournalEntry) : String :=
  .ofList (Text.padStart 5 ' ' e.level.label.toList) ++ " " ++ e.source.target ++ ": " ++ e.text

def printedLine : Printed → String
  | .text text => text
  | .entry e => entryLine e

/-- The surroundings of the command. The files are those that a launch may read. -/
def surroundings (words : List String) : IO Surroundings := do
  let home ← IO.getEnv "HOME"
  let configHome ← IO.getEnv "XDG_CONFIG_HOME"
  let dataHome ← IO.getEnv "XDG_DATA_HOME"
  let cwd := (← IO.getEnv "PWD").getD "/"
  let dirs := Directories.resolve home configHome dataHome
  let configPath := Config.filePath dirs.config
  let start : FileSystem := { FileSystem.empty with cwd := Path.locate [] cwd }
  let files ← gather (← gather start configPath) (Preferences.filePath dirs.data)
  let files ← match (Config.load files dirs.config).1.logFile with
    | some path => gather files path
    | none => pure files
  return { words, home, configHome, dataHome, filter := ← IO.getEnv "RUST_LOG", files }

/-- Prints what came of a launch, and adds the new entries to the file of the journal. -/
def report (l : Launch) : IO Unit := do
  IO.print l.output
  for p in l.journal.printed do
    IO.eprintln (printedLine p)
  if let some path := l.journal.file then
    let h ← IO.FS.Handle.mk path .append
    for e in l.journal.written do
      h.putStrLn (entryLine e)
  if let some w := l.window then
    for p in w.paint do
      IO.println p.text

end LiveTail.Command

open LiveTail.Command in
/-- Launches the program and shows the window as it opens. -/
def main (words : List String) : IO UInt32 := do
  let l := LiveTail.Launch.run (← surroundings words)
  report l
  return l.exitCode.toUInt32
