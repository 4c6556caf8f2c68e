import LiveTail.Files.Path
/-! A file system as a value: files and directories by their places, and the operations on them,
each of which happens wholly or not at all. -/
namespace LiveTail

/-- Why an operation on files fails. -/
inductive FileFault where
  | notFound
  | notDirectory
  | isDirectory
  | exists
  | denied
  | busy
  | nameTooLong
  | invalidName
  | invalidText
  | other (reason : String)
  deriving DecidableEq, Repr

def FileFault.message : FileFault → String
  | .notFound => "No such file or directory (os error 2)"
  | .notDirectory => "Not a directory (os error 20)"
  | .isDirectory => "Is a directory (os error 21)"
  | .exists => "File exists (os error 17)"
  | .denied => "Permission denied (os error 13)"
  | .busy => "Device or resource busy (os error 16)"
  | .nameTooLong => "File name too long (os error 36)"
  | .invalidName => "file name contained an unexpected NUL byte"
  | .invalidText => "stream did not contain valid UTF-8"
  | .other reason => reason

/-- What is at a place. -/
inductive FileNode where
  | file (bytes : List UInt8)
  | directory
  deriving DecidableEq, Repr

/-- What is at each place other than the root, which is a directory, and the working directory. -/
structure FileSystem where
  nodes : List (Path.Place × FileNode)
  cwd : Path.Place
  deriving DecidableEq, Repr

namespace FileSystem

def empty : FileSystem := ⟨[], []⟩

/-- The node at a place, whatever leads there. -/
def node? (fs : FileSystem) (p : Path.Place) : Option FileNode :=
  if p.isEmpty then some .directory else fs.nodes.lookup p

/-- Puts a node at a place. -/
def set (fs : FileSystem) (p : Path.Place) (n : FileNode) : FileSystem :=
  { fs with nodes := (p, n) :: fs.nodes.filter (fun e => e.1 ≠ p) }

/-- Leaves nothing at a place. -/
def erase (fs : FileSystem) (p : Path.Place) : FileSystem :=
  { fs with nodes := fs.nodes.filter (fun e => e.1 ≠ p) }

/-- The most bytes that a name and a path may have. -/
def maxName : Nat := 255

def maxPath : Nat := 4095

/-- Goes through the names of a path: all but the last have to lead to directories. `up` are the
names of the place so far, the last first. With nothing but slashes behind it, a name may still be
free. -/
def follow (fs : FileSystem) (up : Path.Place) : List (List Char) → Except FileFault Unit
  | [] => .ok ()
  | c :: r =>
    if c = [] || c = ['.'] then follow fs up r
    else if c = ['.', '.'] then follow fs (up.drop 1) r
    else if maxName < (String.ofList c).utf8ByteSize then .error .nameTooLong
    else if r.isEmpty then .ok ()
    else
      match fs.node? (.ofList c :: up).reverse with
      | some .directory => follow fs (.ofList c :: up) r
      | some (.file _) => .error .notDirectory
      | none => if r.all List.isEmpty then .ok () else .error .notFound

/-- What a path leads to. -/
def resolve (fs : FileSystem) (path : String) : Except FileFault (Path.Place × Option FileNode) :=
  if path.isEmpty then .error .notFound
  else if path.toList.contains '\x00' then .error .invalidName
  else if maxPath < path.utf8ByteSize then .error .nameTooLong
  else
    let up := if Path.isAbsolute path then [] else fs.cwd.reverse
    match fs.follow up (Text.splitOn '/' path.toList) with
    | .ok () =>
      let p := Path.locate fs.cwd path
      .ok (p, fs.node? p)
    | .error e => .error e

/-- Whether there is something at a path. -/
def isThere (fs : FileSystem) (path : String) : Bool :=
  match fs.resolve path with
  | .ok (_, some _) => true
  | _ => false

def isDirectory (fs : FileSystem) (path : String) : Bool :=
  match fs.resolve path with
  | .ok (_, some .directory) => true
  | _ => false

/-- The bytes of a file. -/
def read (fs : FileSystem) (path : String) : Except FileFault (List UInt8) :=
  match fs.resolve path with
  | .ok (_, some (.file bytes)) => .ok bytes
  | .ok (_, some .directory) => .error .isDirectory
  | .ok (_, none) => .error .notFound
  | .error e => .error e

/-- The text of a file. -/
def readText (fs : FileSystem) (path : String) : Except FileFault String :=
  match fs.read path with
  | .ok bytes =>
    match String.fromUTF8? ⟨bytes.toArray⟩ with
    | some s => .ok s
    | none => .error .invalidText
  | .error e => .error e

/-- Gives a file these bytes, whether it was there or not. -/
def write (fs : FileSystem) (path : String) (bytes : List UInt8) : Except FileFault FileSystem :=
  match fs.resolve path with
  | .ok (_, some .directory) => .error .isDirectory
  | .ok (p, some (.file _)) => .ok (fs.set p (.file bytes))
  | .ok (p, none) =>
    if Path.endsInSlash path then .error .isDirectory else .ok (fs.set p (.file bytes))
  | .error e => .error e

/-- Adds bytes at the end of a file, which may be a new one. -/
def append (fs : FileSystem) (path : String) (bytes : List UInt8) : Except FileFault FileSystem :=
  match fs.resolve path with
  | .ok (_, some .directory) => .error .isDirectory
  | .ok (p, some (.file old)) => .ok (fs.set p (.file (old ++ bytes)))
  | .ok (p, none) =>
    if Path.endsInSlash path then .error .isDirectory else .ok (fs.set p (.file bytes))
  | .error e => .error e

/-- Makes one directory. -/
def makeDirectory (fs : FileSystem) (path : String) : Except FileFault FileSystem :=
  match fs.resolve path with
  | .ok (_, some _) => .error .exists
  | .ok (p, none) => .ok (fs.set p .directory)
  | .error e => .error e

/-- Gives a file another place, where a file may be replaced. The names `.` and `..` cannot be
given, and only a directory can have a name with a slash behind it. -/
def rename (fs : FileSystem) (source target : String) : Except FileFault FileSystem :=
  match fs.resolve source, fs.resolve target with
  | .ok (p, some (.file bytes)), .ok (q, n) =>
    if Path.endsInDots target then .error .busy
    else if Path.endsInSlash target then .error .notDirectory
    else match n with
    | some .directory => .error .isDirectory
    | _ => .ok ((fs.erase p).set q (.file bytes))
  | .ok (_, some .directory), _ => .error .isDirectory
  | .ok (_, none), _ => .error .notFound
  | .error e, _ => .error e
  | _, .error e => .error e

/-- Removes a file. -/
def remove (fs : FileSystem) (path : String) : Except FileFault FileSystem :=
  match fs.resolve path with
  | .ok (p, some (.file _)) => .ok (fs.erase p)
  | .ok (_, some .directory) => .error .isDirectory
  | .ok (_, none) => .error .notFound
  | .error e => .error e

end FileSystem

end LiveTail
