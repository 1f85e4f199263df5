import DungeonHooks.Files

/-! What the command line needs of a file system, and paths in it. -/

namespace DungeonHooks.Command

/-- The operations of a file system on paths. -/
structure FileAccess (m : Type → Type) where
  read : String → m (Except FileFault (List UInt8))
  write : String → List UInt8 → m (Except FileFault Unit)
  /-- Makes one folder, in a folder that is there. -/
  makeFolder : String → m (Except FileFault Unit)
  isFolder : String → m Bool

/-- Drops the parts at the end of a path that name nothing; a leading dot is kept. -/
def dropEmpty : List String → List String
  | [] => []
  | first :: rest => first :: (rest.reverse.dropWhile fun part => part.isEmpty || part == ".").reverse

/-- The path of the folder that a path lies in, empty for the current one; the root lies in none. -/
def parentPath (path : String) : Option String :=
  match dropEmpty (path.splitOn "/") with
  | [] => none
  | [""] => none
  | ["", _] => some "/"
  | parts => some ("/".intercalate (dropEmpty parts.dropLast))

/-- Makes a folder and those that it lies in, as far as they are missing. The number of parts of the path bounds the number of folders. -/
def FileAccess.makeFolders {m : Type → Type} [Monad m] (files : FileAccess m) :
    Nat → String → m (Except FileFault Unit)
  | 0, _ => return .ok ()
  | fuel + 1, path => do
    if path.isEmpty then return .ok ()
    let make : m (Except FileFault Unit) := do
      match ← files.makeFolder path with
      | .ok () => return .ok ()
      | .error fault => if ← files.isFolder path then return .ok () else return .error fault
    match ← make, parentPath path with
    | .error .notFound, some parent =>
      match ← files.makeFolders fuel parent with
      | .ok () => make
      | .error fault => return .error fault
    | result, _ => return result

end DungeonHooks.Command
