import DungeonHooks.Text.Utf8

/-! What can come of reading and writing files, and of reading one as text. -/

namespace DungeonHooks

/-- Why a file operation failed. -/
inductive FileFault where
  | notFound
  | exists
  | notDirectory
  | isDirectory
  /-- Another fault, by the number and the text that the system gives it. -/
  | other (code : Nat) (text : String)
  /-- The file was read, but it is not text. -/
  | notText
  deriving DecidableEq, Inhabited

/-- The text of a file fault. -/
def FileFault.message : FileFault → String
  | .notFound => "No such file or directory (os error 2)"
  | .exists => "File exists (os error 17)"
  | .notDirectory => "Not a directory (os error 20)"
  | .isDirectory => "Is a directory (os error 21)"
  | .other code text => s!"{text} (os error {code})"
  | .notText => "stream did not contain valid UTF-8"

/-- The text of a file that was read as bytes. -/
def textOf (bytes : Except FileFault (List UInt8)) : Except FileFault String :=
  match bytes with
  | .error fault => .error fault
  | .ok bytes =>
    match Text.decode? bytes with
    | some s => .ok s
    | none => .error .notText

/-- An error with its causes, the outermost first. -/
structure Failure where
  message : String
  causes : List String := []
  deriving DecidableEq, Inhabited

/-- An error in the context of what was being done. -/
def Failure.within (failure : Failure) (doing : String) : Failure :=
  { message := doing, causes := failure.message :: failure.causes }

/-- The whole chain on one line. -/
def Failure.line (failure : Failure) : String :=
  ": ".intercalate (failure.message :: failure.causes)

/-- The lines of a text, the ones after the first behind a margin. -/
def indented (first margin : String) (text : String) : List String :=
  match text.splitOn "\n" with
  | [] => [first]
  | line :: rest => (first ++ line) :: rest.map (margin ++ ·)

/-- The causes in their order, each with its number. -/
def numbered (n : Nat) : List String → List String
  | [] => []
  | cause :: rest => indented s!"    {n}: " "       " cause ++ numbered (n + 1) rest

/-- The whole chain over several lines; several causes are numbered. -/
def Failure.lines (failure : Failure) : List String :=
  let heading := indented "Error: " "" failure.message
  match failure.causes with
  | [] => heading
  | [cause] => heading ++ ["", "Caused by:"] ++ indented "    " "    " cause
  | causes => heading ++ ["", "Caused by:"] ++ numbered 0 causes

end DungeonHooks
