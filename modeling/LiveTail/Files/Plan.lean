import LiveTail.Files.System
/-! Plans of file operations. A plan may stop between any two of its actions, so what it does to a
file system shows step by step. -/
namespace LiveTail

/-- One action on a file system. -/
inductive FileAction where
  | makeDirectory (path : String)
  | checkDirectory (path : String)
  | write (path : String) (bytes : List UInt8)
  | rename (source target : String)
  | remove (path : String)
  deriving DecidableEq, Repr

/-- Performs an action; one that fails changes nothing. -/
def FileSystem.perform (fs : FileSystem) : FileAction → Except FileFault FileSystem
  | .makeDirectory path => fs.makeDirectory path
  | .checkDirectory path => if fs.isDirectory path then .ok fs else .error .notDirectory
  | .write path bytes => fs.write path bytes
  | .rename source target => fs.rename source target
  | .remove path => fs.remove path

/-- Actions in order, each chosen by how the ones before it went, and a result. -/
inductive Plan (α : Type) where
  | done (result : α)
  | act (action : FileAction) (next : Except FileFault Unit → Plan α)

namespace Plan

variable {α β : Type}

/-- Goes on with a plan that depends on the result. -/
def andThen : Plan α → (α → Plan β) → Plan β
  | .done a, f => f a
  | .act action next, f => .act action (fun r => (next r).andThen f)

/-- Performs all actions. -/
def run : Plan α → FileSystem → α × FileSystem
  | .done a, fs => (a, fs)
  | .act action next, fs =>
    match fs.perform action with
    | .ok fs' => (next (.ok ())).run fs'
    | .error e => (next (.error e)).run fs

/-- Makes a directory with all directories above it, given by the directory and its ancestors. A
directory that is there already is no fault. -/
def makeDirectories : List String → Plan (Except FileFault Unit)
  | [] => .done (.ok ())
  | path :: above =>
    let acceptExisting (e : FileFault) : Plan (Except FileFault Unit) :=
      .act (.checkDirectory path) (fun
        | .ok () => .done (.ok ())
        | .error _ => .done (.error e))
    .act (.makeDirectory path) (fun
      | .ok () => .done (.ok ())
      | .error .notFound =>
        (makeDirectories above).andThen (fun
          | .error e => .done (.error e)
          | .ok () =>
            .act (.makeDirectory path) (fun
              | .ok () => .done (.ok ())
              | .error e => acceptExisting e))
      | .error e => acceptExisting e)

end Plan

end LiveTail
