/-! The journal of what was dispatched, and the log that every entry is forwarded to. -/

namespace DungeonHooks

/-- What part of the runtime an entry is about. -/
inductive Category where
  | general
  | specialProcess
  | effects
  | instructions
  | menus
  deriving DecidableEq, Inhabited

/-- The name a report gives a category. -/
def Category.name : Category → String
  | .general => "default"
  | .specialProcess => "special_process"
  | .effects => "effects"
  | .instructions => "instructions"
  | .menus => "menus"

/-- The dotted target under which a category's entries reach the log. -/
def Category.target : Category → String
  | .general => "hooks"
  | .specialProcess => "hooks.special_process"
  | .effects => "hooks.effects"
  | .instructions => "hooks.ground_instructions"
  | .menus => "hooks.script_menus"

/-- How much an entry matters. -/
inductive Severity where
  | info
  | warn
  | error
  deriving DecidableEq, Inhabited

/-- The name a report gives a severity. -/
def Severity.name : Severity → String
  | .info => "info"
  | .warn => "warn"
  | .error => "error"

/-- The levels of the log; only a host and a loader write below `info`. -/
inductive LogLevel where
  | debug
  | info
  | warn
  | error
  deriving DecidableEq, Inhabited

/-- The name of a level. -/
def LogLevel.name : LogLevel → String
  | .debug => "debug"
  | .info => "info"
  | .warn => "warn"
  | .error => "error"

/-- A severity is forwarded at the level of its own name. -/
def Severity.level : Severity → LogLevel
  | .info => .info
  | .warn => .warn
  | .error => .error

/-- A line that reached the log. -/
structure LogRecord where
  target : String
  level : LogLevel
  message : String
  deriving DecidableEq, Inhabited

/-- An entry kept by the journal. -/
structure JournalEntry where
  category : Category
  severity : Severity
  message : String
  deriving DecidableEq, Inhabited

/-- The log line an entry is forwarded as. -/
def JournalEntry.forwarded (entry : JournalEntry) : LogRecord :=
  { target := entry.category.target, level := entry.severity.level, message := entry.message }

/-- The entries kept in memory, oldest first; a disabled journal keeps none. -/
structure Journal where
  enabled : Bool := true
  entries : List JournalEntry := []
  deriving DecidableEq, Inhabited

/-- An empty journal. -/
def Journal.new (enabled : Bool) : Journal :=
  { enabled }

/-- Keeps an entry, if the journal is enabled. -/
def Journal.keep (journal : Journal) (entry : JournalEntry) : Journal :=
  if journal.enabled then { journal with entries := journal.entries ++ [entry] } else journal

/-- The number of kept entries of a category and a severity. -/
def Journal.count (journal : Journal) (category : Category) (severity : Severity) : Nat :=
  journal.entries.countP fun entry => entry.category == category && entry.severity == severity

/-- The kept entries, and the journal without them. -/
def Journal.take (journal : Journal) : List JournalEntry × Journal :=
  (journal.entries, { journal with entries := [] })

end DungeonHooks
