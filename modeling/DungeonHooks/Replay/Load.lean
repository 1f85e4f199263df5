import DungeonHooks.Files
import DungeonHooks.Format.Scenario

/-! Settings and scenarios from the files that hold them. -/

namespace DungeonHooks.Replay

open Json

/-- Why a document could not be loaded from a file. -/
inductive LoadError where
  | unreadable (path : String) (fault : FileFault)
  | unparsable (path : String) (error : ReadError)
  deriving DecidableEq, Inhabited

/-- Reads the document in a file. -/
def loadDocument {α : Type} (decode : Decoder α) (path : String)
    (content : Except FileFault String) : Except LoadError α :=
  match content with
  | .error fault => .error (.unreadable path fault)
  | .ok text => (fromText decode text).mapError (.unparsable path)

/-- Reads the settings in a file. -/
def loadSettings : String → Except FileFault String → Except LoadError Settings :=
  loadDocument Format.settings.decode

/-- Reads the scenario in a file. -/
def loadScenario : String → Except FileFault String → Except LoadError Scenario :=
  loadDocument Format.scenario.decode

/-- Settings that could not be loaded. -/
def LoadError.ofSettings : LoadError → Failure
  | .unreadable path fault =>
    { message := s!"failed to read config file {path}: {fault.message}"
      causes := [fault.message] }
  | .unparsable path error =>
    { message := s!"failed to parse config json {path}: {error.message}"
      causes := [error.message] }

/-- A scenario that could not be loaded. -/
def LoadError.ofScenario : LoadError → Failure
  | .unreadable path fault => { message := s!"reading scenario {path}", causes := [fault.message] }
  | .unparsable path error => { message := s!"parsing scenario {path}", causes := [error.message] }

end DungeonHooks.Replay
