import LiveTail.Files.Path
import LiveTail.Program
/-! The directories of the user's configuration and data. -/
namespace LiveTail

/-- The directories of the configuration and of the data of the program. -/
structure Directories where
  config : String
  data : String
  deriving DecidableEq, Repr

namespace Directories

/-- A base directory: the one set for it if that is an absolute path, else a path below the home
directory. -/
def baseOf (home path : String) (set : Option String) : String :=
  match set.filter Path.isAbsolute with
  | some dir => dir
  | none => Path.join home path

/-- The directories for a home directory and the base directories that are set. Without a home they
are the working directory. -/
def resolve (home config data : Option String) : Directories :=
  match home with
  | none => ⟨".", "."⟩
  | some home =>
    ⟨Path.join (baseOf home ".config" config) Program.name,
      Path.join (baseOf home ".local/share" data) Program.name⟩

end Directories

end LiveTail
