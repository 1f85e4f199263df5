import DungeonHooks.Dispatch.Route
import DungeonHooks.Replay.Scenario
import DungeonHooks.Text.Utf8

/-! What a replay reports: each step, and the world and the host after the last one. -/

namespace DungeonHooks.Replay

/-- What became of a step; `handled` tells whether the runtime or the host took the event. -/
structure StepReport where
  index : Nat
  kind : String
  handled : Bool := false
  value : Option Int32 := none
  detail : Option String := none
  error : Option String := none
  deriving DecidableEq, Inhabited

/-- The state of the host that is reported. -/
structure Snapshot where
  borderColor : Option Int32
  dialogueBox : Option DialogueBox
  wordVariables : List (ScriptVariable × Int32)
  textVariables : List (ScriptVariable × String)
  messages : List String
  statBoosts : List String
  roster : List (Nat × Recruit)
  joined : List Int32
  partnerName : Option String
  portraitsShown : List Int32
  openWindows : Nat
  deriving DecidableEq, Inhabited

/-- The text that bytes hold before the first zero. -/
def textOfBytes (bytes : List UInt8) : String :=
  Text.decodeLossy (bytes.takeWhile (· != 0))

/-- The state of a host that is reported. -/
def SimulatedHost.snapshot (host : SimulatedHost) : Snapshot where
  borderColor := host.borderColor
  dialogueBox := host.dialogueBox
  wordVariables := host.wordVariables.toList
  textVariables := host.byteVariables.toList.map fun (var, bytes) => (var, textOfBytes bytes)
  messages := host.messages
  statBoosts := host.statBoosts
  roster := host.roster.toList
  joined := host.joined
  partnerName := host.partnerName
  portraitsShown := host.portraitsShown
  openWindows := host.openWindows

/-- The outcome of a whole scenario. -/
structure Report where
  scenario : String
  resolvers : List String
  hooks : List HookPoint
  steps : List StepReport
  entities : List (String × Entity)
  items : List (String × Item)
  host : Snapshot
  journal : List JournalEntry
  deriving DecidableEq, Inhabited

/-- A step on one line. -/
def StepReport.line (step : StepReport) : String :=
  let value := (step.value.map fun value => s!" value={value.toInt}").getD ""
  let detail := (step.detail.map fun detail => s!" ({detail})").getD ""
  let error := (step.error.map fun error => s!" error: {error}").getD ""
  s!"  [{step.index}] {step.kind} handled={step.handled}{value}{detail}{error}"

/-- The report in short: a line per step, between a heading and the size of the journal. -/
def Report.summary (report : Report) : List String :=
  [s!"Scenario {report.scenario}", "  resolvers: " ++ " -> ".intercalate report.resolvers]
    ++ report.steps.map StepReport.line
    ++ [s!"  journal entries: {report.journal.length}"]

end DungeonHooks.Replay
