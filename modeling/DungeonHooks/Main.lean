import DungeonHooks.Command.Run

/-! The program: the command line on the files and streams of the system. -/

open DungeonHooks DungeonHooks.Command

/-- The fault of an operation of the system. -/
def faultOf : IO.Error → FileFault
  | .noFileOrDirectory .. => .notFound
  | .alreadyExists .. => .exists
  | .inappropriateType _ code text =>
    if code == 20 then .notDirectory
    else if code == 21 then .isDirectory
    else .other code.toNat text
  | .permissionDenied _ code text => .other code.toNat text
  | error => .other 0 (toString error)

/-- An operation of the system with its fault, if it has one. -/
def attempted {α : Type} (operation : IO α) : IO (Except FileFault α) := do
  match ← operation.toBaseIO with
  | .ok value => return .ok value
  | .error error => return .error (faultOf error)

/-- Reads a file of the system. -/
def readSystemFile (path : String) : IO (Except FileFault (List UInt8)) :=
  attempted do
    let file ← IO.FS.Handle.mk path .read
    return (← file.readBinToEnd).toList

/-- The files of the system. -/
def systemFiles : FileAccess IO where
  read := readSystemFile
  write path bytes := attempted (IO.FS.writeBinFile path ⟨bytes.toArray⟩)
  makeFolder path := attempted (IO.FS.createDir path)
  isFolder path := do
    -- Only a folder is there and refuses to be read for that reason.
    match ← readSystemFile path with
    | .error .isDirectory => return true
    | _ => return false

/-- A line of the log, as it is shown. -/
def shownRecord (line : LogRecord) : String :=
  s!"[{line.level.name} {line.target}] {line.message}"

def main (args : List String) : IO UInt32 := do
  let outcome ← run systemFiles args
  let errors ← IO.getStderr
  for line in outcome.log do
    errors.putStrLn (shownRecord line)
  IO.print outcome.printed
  if outcome.explains then
    if outcome.code == 0 then IO.println usage else errors.putStrLn usage
  for line in outcome.errors do
    errors.putStrLn line
  return outcome.code
