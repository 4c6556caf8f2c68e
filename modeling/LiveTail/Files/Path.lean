import LiveTail.Text.Lines
/-! Paths of files as texts, and the places they name. -/
namespace LiveTail.Path

def isAbsolute (path : String) : Bool := path.toList.head? = some '/'

/-- Such a path can only name a directory. -/
def endsInSlash (path : String) : Bool := path.toList.getLast? = some '/'

/-- A path below a directory; an absolute path stands for itself. -/
def join (dir path : String) : String :=
  if isAbsolute path then path
  else if dir.isEmpty || endsInSlash dir then dir ++ path
  else dir ++ "/" ++ path

/-- A place: the names on the way to it from the root. -/
abbrev Place := List String

/-- The names of a path, with `..` resolved, behind the names of a place, the last first. -/
def walk : List String → List (List Char) → List String
  | up, [] => up
  | up, c :: r =>
    if c = [] || c = ['.'] then walk up r
    else if c = ['.', '.'] then walk (up.drop 1) r
    else walk (.ofList c :: up) r

/-- The place that a path names, seen from a working directory. -/
def locate (cwd : Place) (path : String) : Place :=
  (walk (if isAbsolute path then [] else cwd.reverse) (Text.splitOn '/' path.toList)).reverse

/-- Drops from a path, given from its end, the slashes and the names `.` behind slashes there. -/
def dropTail : List Char → List Char
  | '/' :: r => if r.isEmpty then ['/'] else dropTail r
  | '.' :: '/' :: r => if r.isEmpty then ['/'] else dropTail r
  | cs => cs

/-- The path without slashes and names `.` at the end, which name nothing. -/
def trimEnd (cs : List Char) : List Char := (dropTail cs.reverse).reverse

/-- The last name of a path and the text before it. -/
def splitLast (path : String) : List Char × List Char :=
  let cs := dropTail path.toList.reverse
  (((cs.dropWhile (· ≠ '/'))).reverse, (cs.takeWhile (· ≠ '/')).reverse)

/-- The last name is `.` or `..`, which stand for a directory that is there already. -/
def endsInDots (path : String) : Bool :=
  let name := (path.toList.reverse.dropWhile (· = '/')).takeWhile (· ≠ '/')
  name = ['.'] || name = ['.', '.']

/-- The path without its last name; none if it has no name. -/
def parent? (path : String) : Option String :=
  match splitLast path with
  | (_, []) => none
  | (dir, _) => some (.ofList (trimEnd dir))

/-- The path, the one without its last name, and so on; the empty path is left out. -/
def ancestors : Nat → String → List String
  | 0, _ => []
  | fuel + 1, path =>
    if path.isEmpty then []
    else match parent? path with
      | some dir => path :: ancestors fuel dir
      | none => [path]

/-- A name without its extension, the part from its last point on. -/
def stem (name : List Char) : List Char :=
  match name.reverse.dropWhile (· ≠ '.') with
  | '.' :: c :: r => (c :: r).reverse
  | _ => name

/-- The path with another extension of its last name. -/
def withExtension (extension path : String) : String :=
  let (dir, name) := splitLast path
  if name.isEmpty || name = ['.'] || name = ['.', '.'] then path
  else .ofList (dir ++ stem name) ++ "." ++ extension

end LiveTail.Path
