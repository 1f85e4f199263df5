import DungeonHooks.Command.FileAccess
import DungeonHooks.Command.Options
import DungeonHooks.Format.Report
import DungeonHooks.Replay.Load
import DungeonHooks.Replay.Run
import DungeonHooks.Script.Resolver

/-! A whole run of the command line. -/

namespace DungeonHooks.Command

open Replay

/-- What a run ends with. -/
structure Outcome where
  code : UInt32 := 0
  /-- What is printed, line ends included. -/
  printed : String := ""
  /-- The error of a run that failed. -/
  errors : List String := []
  /-- Whether the options are to be explained. -/
  explains : Bool := false
  /-- What the run logged. -/
  log : List LogRecord := []
  deriving Inhabited

/-- The code of a run that failed. -/
def failureCode : UInt32 := 1

/-- The code of a run whose arguments break the rules of usage. -/
def misuseCode : UInt32 := 2

/-- A run that failed. -/
def Outcome.ofFailure (failure : Failure) (log : List LogRecord) : Outcome :=
  { code := failureCode, errors := failure.lines, log }

/-- A script that could not be loaded. -/
def failureOfScript (path : String) (error : Script.FileError) : Failure :=
  let causes := match error with
    | .unreadable _ fault => [error.message, fault.message]
    | .script error => [error.message]
  { message := s!"loading effect script {path}", causes }

/-- A step that may fail, and logs. -/
abbrev Attempt (m : Type → Type) := ExceptT Failure (StateT (List LogRecord) m)

section

variable {m : Type → Type} [Monad m]

/-- A file operation as part of an attempt. -/
def onFiles {α : Type} (operation : m (Except FileFault α)) : Attempt m (Except FileFault α) :=
  ExceptT.lift (StateT.lift operation)

/-- Reads a file as text. -/
def readText (files : FileAccess m) (path : String) : Attempt m (Except FileFault String) := do
  return textOf (← onFiles (files.read path))

/-- Goes on, or fails with what became of an error. -/
def orFail {ε α : Type} (describe : ε → Failure) : Except ε α → Attempt m α
  | .ok value => return value
  | .error error => throw (describe error)

/-- Adds lines to the log. -/
def tellLog (lines : List LogRecord) : Attempt m Unit :=
  modify (· ++ lines)

/-- Replays the scenario of some options. -/
def replay (files : FileAccess m) (options : Options) : Attempt m Report := do
  let settings ← match options.config with
    | none => pure {}
    | some path =>
      let content ← readText files path
      orFail (fun error => error.ofSettings.within "loading runtime config")
        (loadSettings path content)
  let content ← readText files options.scenario
  let scenario ← orFail LoadError.ofScenario (loadScenario options.scenario content)
  let script : Option Script ← match options.script with
    | none => pure none
    | some path =>
      let content ← readText files path
      let script ← orFail (failureOfScript path) (Script.loadFile path content)
      tellLog [script.loadedRecord]
      pure (some script)
  let secondary := (script.map (·.resolver)).toList
  let outcome := Replay.run scenario (Engine.new settings .builtin secondary)
  tellLog outcome.context.log
  orFail (fun stop => stop.failure.within s!"running scenario '{scenario.name}'") outcome.result

/-- Writes the text of a report to a file, in folders that are made where they are missing. -/
def writeReport (files : FileAccess m) (path text : String) : Attempt m Unit := do
  match parentPath path with
  | none => pure ()
  | some parent =>
    let made ← onFiles (files.makeFolders (parent.length + 1) parent)
    orFail (fun fault => { message := s!"creating {parent}", causes := [fault.message] }) made
  let written ← onFiles (files.write path (Text.utf8 text))
  orFail (fun fault => { message := s!"writing report to {path}", causes := [fault.message] }) written

/-- Replays a scenario, and writes or prints its report; and what is printed. -/
def perform (files : FileAccess m) (options : Options) : Attempt m String := do
  let report ← replay files options
  let text := (Format.ofReport report).pretty 0
  match options.reportJson with
  | none => return text ++ "\n"
  | some path =>
    writeReport files path text
    let lines := report.summary ++ [s!"Report written to {path}"]
    return String.join (lines.map (· ++ "\n"))

/-- Runs the command line. -/
def run (files : FileAccess m) (args : List String) : m Outcome := do
  match Request.ofArgs args with
  | .help => return { explains := true }
  | .version => return { printed := version ++ "\n" }
  | .misuse => return { code := misuseCode, explains := true }
  | .run options =>
    let (result, log) ← (perform files options).run []
    let level := fun (line : LogRecord) =>
      line.level == .warn || line.level == .error || (options.verbose && line.level == .info)
    match result with
    | .ok printed => return { printed, log := log.filter level }
    | .error failure => return .ofFailure failure (log.filter level)

end

end DungeonHooks.Command
