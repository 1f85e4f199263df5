import DungeonHooks.Command.FileAccess

/-! A file system in memory: the files below one folder, which is the current one. -/

namespace DungeonHooks.Command

/-- A place: the folders on the way to it, from the current folder or from the root. -/
abbrev Location := List String

/-- Files and folders by their places. The folders that a file lies in need not be listed. -/
structure Tree where
  files : List (Location × List UInt8) := []
  folders : List Location := []
  deriving Inhabited

namespace Tree

/-- The place of the root. -/
def root : Location := ["/"]

/-- Whether a place is outside of what the tree tells about: the root, or a folder around the current one. -/
def isAround (place : Location) : Bool :=
  place == root || place.all (· == "..")

/-- Whether there is a file at a place. -/
def hasFile (tree : Tree) (place : Location) : Bool :=
  (tree.files.lookup place).isSome

/-- Whether there is a folder at a place. -/
def hasFolder (tree : Tree) (place : Location) : Bool :=
  isAround place || tree.folders.contains place
    || tree.files.any fun file => place.isPrefixOf file.1 && place != file.1

/-- The place around another. -/
def around (place : Location) : Location :=
  if place == root then root
  else if isAround place then ".." :: place
  else place.dropLast

/-- Follows the parts of a path from a place. All but the last have to be folders. -/
def follow (tree : Tree) (place : Location) : List String → Except FileFault Location
  | [] => .ok place
  | part :: rest =>
    if !tree.hasFolder place then
      .error (if tree.hasFile place then .notDirectory else .notFound)
    else if part.isEmpty || part == "." then tree.follow place rest
    else if part == ".." then tree.follow (around place) rest
    else tree.follow (place ++ [part]) rest

/-- The place of a path. -/
def locate (tree : Tree) (path : String) : Except FileFault Location :=
  if path.isEmpty then .error .notFound
  else tree.follow (if path.startsWith "/" then root else []) (path.splitOn "/")

/-- The bytes of the file at a path. -/
def read (tree : Tree) (path : String) : Except FileFault (List UInt8) := do
  let place ← tree.locate path
  match tree.files.lookup place with
  | some bytes => .ok bytes
  | none => .error (if tree.hasFolder place then .isDirectory else .notFound)

/-- Puts a file at a place. -/
def put (tree : Tree) (place : Location) (bytes : List UInt8) : Tree :=
  { tree with files := (place, bytes) :: tree.files.filter (·.1 != place) }

/-- Writes a file. A path that ends in a slash is one of a folder. -/
def write (tree : Tree) (path : String) (bytes : List UInt8) : Except FileFault Tree := do
  if path.endsWith "/" then
    let _ ← tree.locate ((parentPath path).getD "/" ++ "/.")
    .error .isDirectory
  else
    let place ← tree.locate path
    if tree.hasFolder place then .error .isDirectory else .ok (tree.put place bytes)

/-- Makes a folder. -/
def makeFolder (tree : Tree) (path : String) : Except FileFault Tree := do
  let place ← tree.locate ("/".intercalate (dropEmpty (path.splitOn "/")))
  if tree.hasFile place || tree.hasFolder place then .error .exists
  else .ok { tree with folders := place :: tree.folders }

/-- Whether there is a folder at a path. -/
def isFolder (tree : Tree) (path : String) : Bool :=
  match tree.locate path with
  | .ok place => tree.hasFolder place
  | .error _ => false

/-- The tree of files with their paths. -/
def ofFiles (files : List (String × List UInt8)) : Tree :=
  { files := files.map fun (path, bytes) => (path.splitOn "/", bytes) }

/-- Keeps the tree that an operation leaves. -/
def keep (change : Tree → Except FileFault Tree) : StateM Tree (Except FileFault Unit) := do
  match change (← get) with
  | .ok tree =>
    set tree
    return .ok ()
  | .error fault => return .error fault

/-- The operations on a tree that is kept as a state. -/
def access : FileAccess (StateM Tree) where
  read path := return (← get).read path
  write path bytes := keep fun tree => tree.write path bytes
  makeFolder path := keep fun tree => tree.makeFolder path
  isFolder path := return (← get).isFolder path

end Tree

end DungeonHooks.Command
