import DungeonHooks.Format.World
import DungeonHooks.Replay.Report

/-! How reports are written. -/

namespace DungeonHooks.Format

open Json Replay

/-- A step; what it does not have is left out. -/
def ofStepReport (step : StepReport) : Value :=
  .record
    ([("index", ofSize step.index), ("kind", .text step.kind), ("handled", .bool step.handled)]
      ++ Value.member? "value" ofWord step.value
      ++ Value.member? "detail" .text step.detail
      ++ Value.member? "error" .text step.error)

/-- The state of the host. -/
def ofSnapshot (s : Snapshot) : Value :=
  .record
    [ ("border_color", .ofOption ofWord s.borderColor),
      ("dialogue_box", .ofOption ofDialogueBox s.dialogueBox),
      ("variables", .ofMap ScriptVariable.name ofWord s.wordVariables),
      ("text_variables", .ofMap ScriptVariable.name .text s.textVariables),
      ("messages", .ofList .text s.messages),
      ("stat_boosts", .ofList .text s.statBoosts),
      ("roster", .ofMap toString ofRecruit s.roster),
      ("joined", .ofList ofWord s.joined),
      ("partner_name", .ofOption .text s.partnerName),
      ("portraits_shown", .ofList ofWord s.portraitsShown),
      ("open_windows", ofSize s.openWindows) ]

/-- An entry of the journal. -/
def ofJournalEntry (entry : JournalEntry) : Value :=
  .record
    [ ("category", .text entry.category.name), ("severity", .text entry.severity.name),
      ("message", .text entry.message) ]

/-- A report. -/
def ofReport (report : Report) : Value :=
  .record
    [ ("scenario", .text report.scenario),
      ("resolvers", .ofList .text report.resolvers),
      ("hooks", .ofList (fun hook => .text hook.name) report.hooks),
      ("steps", .ofList ofStepReport report.steps),
      ("entities", .ofMap id ofEntity report.entities),
      ("items", .ofMap id ofItem report.items),
      ("host", ofSnapshot report.host),
      ("journal", .ofList ofJournalEntry report.journal) ]

end DungeonHooks.Format
