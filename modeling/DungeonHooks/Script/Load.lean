import DungeonHooks.Files
import DungeonHooks.Script.Evaluate
import DungeonHooks.Script.Reader

/-! Scripts from their text, and everything that can go wrong with one. -/

namespace DungeonHooks

namespace Script

/-- Why a script could not be loaded, or failed in a handler. -/
inductive ScriptError where
  /-- A name with a zero byte at an index. -/
  | badName (index : Nat)
  /-- Text that begins like a compiled program; the flag says whether it is long enough for a heading. -/
  | compiled (name : List UInt8) (headed : Bool)
  | unparsable (name : List UInt8) (error : SyntaxError)
  | thrown (value : Value)
  | mismatch (error : ConversionError)
  | endless
  deriving Inhabited

/-- An error that a run was broken off with. -/
def ScriptError.ofRaise : Raise → ScriptError
  | .thrown value => .thrown value
  | .endless => .endless

/-- Whether an error lies in the text of a script. -/
def ScriptError.inText : ScriptError → Bool
  | .compiled .. => true
  | .unparsable .. => true
  | _ => false

/-- The text of bytes without the line ends behind it. -/
def trimmed (bytes : List UInt8) : String :=
  Text.decodeLossy (bytes.reverse.dropWhile (· == 10)).reverse

/-- The text of an error in a program. -/
def SyntaxError.message (name : List UInt8) (error : SyntaxError) : List UInt8 :=
  let near := match error.near with
    | some shown => Text.utf8 " near '" ++ (Text.bytesOf shown).takeWhile (· != 0) ++ Text.utf8 "'"
    | none => []
  chunkName syntaxNameSize name ++ Text.utf8 s!":{error.line}: {error.cause.message}" ++ near

/-- The text of a thrown value; a refusal of the host speaks for itself. -/
def thrownMessage : Value → String
  | .fault refusal => refusal.message
  | value => "runtime error: " ++ trimmed (value.display.takeWhile (· != 0))

/-- The text of an error. -/
def ScriptError.message : ScriptError → String
  | .badName index =>
    s!"runtime error: invalid name: nul byte found in provided data at position: {index}"
  | .compiled name headed =>
    let shown := match Text.letters (name.take 1) with
      | ['='] => name.drop 1
      | ['@'] => name.drop 1
      | _ => name
    "syntax error: " ++ Text.decodeLossy shown ++ ": "
      ++ (if headed then "bad header" else "unexpected end") ++ " in precompiled chunk"
  | .unparsable name error => "syntax error: " ++ trimmed (error.message name)
  | .thrown value => thrownMessage value
  | .mismatch error => error.message
  | .endless => "the script did not come to an end"

/-- The number of nested steps that a run may take. -/
def maxSteps : Nat := 1 <<< 40

/-- The byte that a compiled program begins with. -/
def compiledMark : UInt8 := 27

/-- The length of the heading of a compiled program. -/
def compiledHeading : Nat := 12

/-- The tables in which a script registers its handlers by id. -/
inductive Registry where
  | items
  | moves
  | processes
  deriving DecidableEq, Inhabited

/-- The name of the global that holds a registry. -/
def Registry.name : Registry → String
  | .items => "item_effects"
  | .moves => "move_effects"
  | .processes => "special_processes"

/-- The store in which a script starts: the registries are there, and empty. -/
def Store.ready (name : List UInt8) : Store :=
  [Registry.items, .moves, .processes].foldl (fun store registry =>
    let (id, store) := store.addTable {}
    store.setGlobal registry.name (.table id)) (.start name)

/-- Why a script could not be loaded from a file. -/
inductive FileError where
  | unreadable (path : String) (fault : FileFault)
  | script (error : ScriptError)
  deriving Inhabited

/-- The text of an error. -/
def FileError.message : FileError → String
  | .unreadable path fault => s!"failed to read script {path}: {fault.message}"
  | .script error => error.message

end Script

/-- A script that has been loaded, with all that it keeps between its calls. -/
structure Script where
  name : String
  store : Script.Store
  deriving Inhabited

namespace Script

/-- Runs the text of a script once, so that it can register its handlers. -/
def load (name source : String) : Except ScriptError Script :=
  let chunk := Text.utf8 name
  let bytes := Text.utf8 source
  match chunk.idxOf? 0 with
  | some index => .error (.badName index)
  | none =>
    if bytes.head? == some compiledMark then
      .error (.compiled chunk (compiledHeading ≤ bytes.length))
    else
      match parse bytes with
      | .error error => .error (.unparsable chunk error)
      | .ok body =>
        let (main, store) := (Store.ready chunk).addClosure { body, captured := [] }
        match (call maxSteps .outermost 0 (.closure main) [] store).alone with
        | (.ok _, store) => .ok { name, store }
        | (.error raise, _) => .error (.ofRaise raise)

/-- Loads the script in a file, which gives the script its name. -/
def loadFile (path : String) (content : Except FileFault String) : Except FileError Script :=
  match content with
  | .error fault => .error (.unreadable path fault)
  | .ok source => (load path source).mapError .script

/-- What the log is told once a script is loaded. -/
def loadedRecord (script : Script) : LogRecord :=
  { target := Category.effects.target
    level := .debug
    message := s!"loaded effect script {script.name}" }

end Script

end DungeonHooks
