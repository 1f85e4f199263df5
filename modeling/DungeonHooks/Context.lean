import DungeonHooks.Journal

/-! What every handler works with: the host's state, the journal, and the log so far. -/

namespace DungeonHooks

/-- A host's answer to a command: a value, its state afterwards, and what it logged meanwhile. -/
structure Reply (σ α : Type) where
  value : α
  host : σ
  said : List LogRecord := []

/-- An answer that changes nothing and logs nothing. -/
def Reply.still {σ α : Type} (host : σ) (value : α) : Reply σ α :=
  { value, host }

/-- The services of one call: host state, journal and log. -/
structure Context (σ : Type) where
  host : σ
  journal : Journal := {}
  log : List LogRecord := []

namespace Context

variable {σ α : Type}

/-- Adds a line to the log alone. -/
def say (cx : Context σ) (line : LogRecord) : Context σ :=
  { cx with log := cx.log ++ [line] }

/-- Forwards an entry to the log, and keeps it if the journal is enabled. -/
def record (cx : Context σ) (category : Category) (severity : Severity) (message : String) :
    Context σ :=
  let entry : JournalEntry := { category, severity, message }
  { cx with journal := cx.journal.keep entry, log := cx.log ++ [entry.forwarded] }

/-- Records an entry of ordinary progress. -/
def info (cx : Context σ) (category : Category) (message : String) : Context σ :=
  cx.record category .info message

/-- Records an entry about something unusual that was dealt with. -/
def warn (cx : Context σ) (category : Category) (message : String) : Context σ :=
  cx.record category .warn message

/-- Records an entry about something that could not be done. -/
def error (cx : Context σ) (category : Category) (message : String) : Context σ :=
  cx.record category .error message

/-- Gives a command to the host and keeps what it logged. -/
def call (cx : Context σ) (command : σ → Reply σ α) : α × Context σ :=
  let reply := command cx.host
  (reply.value, { cx with host := reply.host, log := cx.log ++ reply.said })

/-- Gives the host a command that has no answer. -/
def tell (cx : Context σ) (command : σ → Reply σ Unit) : Context σ :=
  (cx.call command).2

end Context

/-- A broken rule of the library itself; the call that met it stops there. -/
structure Halt where
  message : String
  deriving DecidableEq, Inhabited

instance exceptDecidableEq {ε α : Type} [DecidableEq ε] [DecidableEq α] :
    DecidableEq (Except ε α)
  | .ok a, .ok b => decidable_of_iff (a = b) ⟨congrArg _, Except.ok.inj⟩
  | .error a, .error b => decidable_of_iff (a = b) ⟨congrArg _, Except.error.inj⟩
  | .ok _, .error _ => .isFalse nofun
  | .error _, .ok _ => .isFalse nofun

/-- The text a halt is reported with. -/
def Halt.report (halt : Halt) : String :=
  "ASSERTION FAILED: " ++ halt.message

/-- A halt goes to the log under the general target, and is never kept in the journal. -/
def Context.halted {σ : Type} (cx : Context σ) (halt : Halt) : Context σ :=
  cx.say { target := Category.general.target, level := .error, message := halt.report }

end DungeonHooks
