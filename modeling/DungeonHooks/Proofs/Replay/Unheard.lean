import DungeonHooks.Proofs.Replay.Deafness
import DungeonHooks.Proofs.Replay.Together

/-! Replays with and without a journal: what is kept of a replay has no part in it. -/

namespace DungeonHooks

/-- The engine with the journal switched on or off. -/
def Engine.journaling {σ : Type} (engine : Engine σ) (journal : Bool) : Engine σ :=
  { engine with settings := { engine.settings with journal } }

/-- The engine of the program, with a script if there is one. -/
def Engine.ofProgram {σ : Type} [Host σ] (settings : Settings) (script : Option Script) :
    Engine σ :=
  .new settings .builtin (script.toList.map Script.resolver)

/-- Entries go to the end of a journal that is enabled, and are lost on one that is not. -/
theorem Journal.foldl_keep (journal : Journal) (entries : List JournalEntry) :
    entries.foldl keep journal =
      { journal with
        entries := if journal.enabled then journal.entries ++ entries else journal.entries } := by
  induction entries generalizing journal with
  | nil => simp
  | cons entry rest ih =>
    -- Keeping the first entry does not touch the switch.
    rw [List.foldl_cons, ih, keep]
    cases switch : journal.enabled <;> simp [switch]

/-- A new journal keeps all entries that are told, or none of what is told. -/
theorem Context.hear_entries {σ : Type} (host : σ) (journal : Bool) (told : List Told) :
    (({ host, journal := .new journal } : Context σ).hear told).journal.entries =
      if journal then told.filterMap Told.entry? else [] := by
  -- It is new, so that nothing stands before the entries.
  rw [hear, Journal.foldl_keep]
  cases journal <;> rfl

namespace Replay

namespace Board

variable {σ : Type}

/-- The board with the journal of its engine switched on or off. -/
def journaling (board : Board σ) (journal : Bool) : Board σ :=
  { board with engine := board.engine.journaling journal }

/-- What a step leaves, with the journal switched on or off. -/
def leftJournaling {ε : Type} (journal : Bool)
    (left : Except ε (StepReport × Board σ) × Context σ) :
    Except ε (StepReport × Board σ) × Context σ :=
  (left.1.map fun (report, board) => (report, board.journaling journal), left.2)

section

variable (journal : Bool) (board : Board σ) (report : StepReport) (cx : Context σ)

/-- A special process goes without the switch. -/
theorem specialProcess_journaling (call : ProcessCall) :
    (board.journaling journal).specialProcess report cx call =
      let moved := board.specialProcess report cx call
      ((moved.1.1, moved.1.2.journaling journal), moved.2) := by
  unfold specialProcess Engine.handleSpecialProcess
  -- Which processes are the host's is told by another setting.
  have same : (board.journaling journal).engine.settings.routeProcess call.id =
    board.engine.settings.routeProcess call.id := rfl
  rw [same]
  cases board.engine.settings.routeProcess call.id <;> rfl

variable [Played σ]

/-- So does the polling of a menu. -/
theorem pollMenu_journaling (step : MenuVisit) (frames : Nat) :
    (board.journaling journal).pollMenu step report frames cx =
      leftJournaling journal (board.pollMenu step report frames cx) := by
  induction frames generalizing board cx with
  | zero => rfl
  | succ left ih =>
    unfold pollMenu
    -- A poll is made by the menus, which are the same.
    have same : (board.journaling journal).engine.stepMenu step.menu cx =
        let stepped := board.engine.stepMenu step.menu cx
        (stepped.1, stepped.2.1.journaling journal, stepped.2.2) := rfl
    rw [same]
    generalize board.engine.stepMenu step.menu cx = stepped
    obtain ⟨halt | answer, engine, cx⟩ := stepped
    · rfl
    · dsimp only [afterPoll]
      split
      · rfl
      · exact ih { board with engine } _

/-- So does the whole visit of a menu. -/
theorem menu_journaling (step : MenuVisit) :
    (board.journaling journal).menu report cx step =
      leftJournaling journal (board.menu report cx step) := by
  -- It is started by the menus, too, and then polled as they were left.
  unfold menu
  have same cx : (board.journaling journal).engine.startMenu step.menu cx =
      let started := board.engine.startMenu step.menu cx
      (started.1, started.2.1.journaling journal, started.2.2) := rfl
  dsimp only
  rw [same]
  generalize board.engine.startMenu step.menu _ = started
  obtain ⟨halt | error | _, engine, cx⟩ := started
  · rfl
  · rfl
  · exact pollMenu_journaling journal { board with engine } report cx step step.frameLimit

variable [Host σ]

/-- So does any step. -/
theorem step_journaling (index : Nat) (step : Step) :
    (board.journaling journal).step index step cx =
      leftJournaling journal (board.step index step cx) := by
  cases step with
  | opcode step => rfl
  | useItem step =>
    unfold Board.step
    -- Entities and items have nothing to do with the switch.
    have same : (board.journaling journal).itemUse step = board.itemUse step := rfl
    dsimp only
    rw [same]
    cases board.itemUse step <;> rfl
  | useMove step =>
    unfold Board.step
    have same : (board.journaling journal).pair step.user step.target =
      board.pair step.user step.target := rfl
    dsimp only
    rw [same]
    cases board.pair step.user step.target <;> rfl
  | specialProcess call =>
    unfold Board.step
    dsimp only
    rw [specialProcess_journaling]
    rfl
  | menu step =>
    unfold Board.step
    dsimp only
    rw [menu_journaling]
    generalize board.menu _ cx step = left
    obtain ⟨_ | _, cx⟩ := left <;> rfl

/-- So does a whole replay. -/
theorem play_journaling (index : Nat) (steps : List Step) :
    (board.journaling journal).play index steps cx =
      let played := board.play index steps cx
      ((played.1.1, played.1.2.1.journaling journal, played.1.2.2), played.2) := by
  -- The switch that the board of one step has is still there on the next one.
  induction steps generalizing index board cx with
  | nil => rfl
  | cons first rest ih =>
    unfold play
    rw [step_journaling]
    generalize board.step index first cx = left
    obtain ⟨stop | ⟨report, board⟩, cx⟩ := left
    · rfl
    · simp only [leftJournaling, Except.map]
      rw [ih]

end

end Board

/-- Closing a window that is not open is worth a warning of the host's. -/
theorem target_of_closeWindow {kind : WindowKind} {id : WindowId} {host : SimulatedHost}
    {line : LogRecord} (member : line ∈ (host.closeWindow kind id).said) :
    line.target = hostTarget := by
  -- A window that is open is closed in silence.
  unfold SimulatedHost.closeWindow at member
  split at member
  · cases member
  · obtain rfl := List.mem_singleton.mp member
    rfl

/-- The host tells its lines under its own name. -/
theorem hostSays_simulated : HostSays SimulatedHost (·.target = hostTarget) := by
  intro request kind host line member
  -- One case for each command that has something to tell.
  cases request with
  | createAdvancedMenu menu =>
    obtain rfl := List.mem_singleton.mp member
    rfl
  | createSimpleMenu menu =>
    obtain rfl := List.mem_singleton.mp member
    rfl
  | closeAdvancedMenu window => exact target_of_closeWindow member
  | closeSimpleMenu window => exact target_of_closeWindow member
  | closePortraitBox window => exact target_of_closeWindow member
  | renamePartner name =>
    obtain ⟨session, _, rfl⟩ := List.mem_map.mp member
    rfl
  | record => cases kind
  -- All other requests are served in silence.
  | _ => cases member

/-- A recording host tells some lines or other. -/
theorem hostSays_recorder : HostSays (Recorder SimulatedHost Unit) fun _ => True :=
  fun _ _ _ _ _ => trivial

/-- No entry of the journal is forwarded under the name of the host. -/
theorem category_target_ne (category : Category) : category.target ≠ hostTarget := by
  cases category <;> decide

/-- The entries of what was told are what the log has that is not the host's. -/
theorem entries_forwarded {told : List Told}
    (heard : ∀ line, Told.line line ∈ told → line.target = hostTarget) :
    (told.filterMap Told.entry?).map JournalEntry.forwarded =
      (told.map Told.forwarded).filter (·.target != hostTarget) := by
  -- The name that a line is told under decides whether an entry was forwarded.
  induction told with
  | nil => rfl
  | cons first rest ih =>
    have ih := ih fun line member => heard line (.tail _ member)
    cases first with
    | entry kept =>
      have other : kept.forwarded.target ≠ hostTarget := category_target_ne kept.category
      simp [Told.entry?, Told.forwarded, other, ih]
    | line said =>
      have own := heard said (.head _)
      simp [List.filterMap_cons, Told.entry?, Told.forwarded, own, ih]

/-- All that the journal kept of a replay: a finished one has it in its report. -/
def Outcome.kept (outcome : Outcome) : List JournalEntry :=
  match outcome.result with
  | .ok report => report.journal
  | .error _ => outcome.context.journal.entries

/-- Nothing but the journal of the two reports differs. -/
def Report.SameButJournal (report other : Report) : Prop :=
  report = { other with journal := report.journal }

/-- A replay with a journal, and the same one without. -/
structure Unheard (loud quiet : Outcome) : Prop where
  /-- Both stop for the same reason, or report the same. -/
  result : Together Report.SameButJournal loud.result quiet.result
  host : loud.context.host = quiet.context.host
  log : loud.context.log = quiet.context.log
  silent : quiet.kept = []
  /-- The lines of the log are those of the entries, in their order, and the host's own. -/
  whole : loud.kept.map JournalEntry.forwarded =
    loud.context.log.filter (·.target != hostTarget)

/-- All that a replay commands its host, with the values that it draws. -/
def commands (scenario : Scenario) (engine : Engine (Recorder SimulatedHost Unit)) :
    List (HostEvent Unit) :=
  let host : Recorder SimulatedHost Unit := { host := scenario.world.host }
  let played := (Board.start engine scenario.world).play 0 scenario.steps
    { host, journal := engine.journal }
  played.2.host.events

/-- Whatever the host is, a replay of the program goes one way, with a journal and without. -/
theorem play_unheard {σ : Type} [Host σ] [Played σ] {lines : LogRecord → Prop}
    (voiced : HostSays σ lines) (ends : ∀ report, lines (Board.stepLine report)) (scenario : Scenario)
    (script : Option Script) (settings : Settings) (host : σ) :
    ∃ reports board stop after told, (∀ line, Told.line line ∈ told → lines line) ∧
      ∀ journal,
        (Board.start (.ofProgram { settings with journal } script) scenario.world).play 0
            scenario.steps { host, journal := .new journal } =
          ((reports, Board.journaling board journal, stop),
            ({ host := after, journal := .new journal } : Context σ).hear told) := by
  have behaved : (Engine.ofProgram settings script : Engine σ).Behaved :=
    Engine.program_behaved settings script.toList
  obtain ⟨⟨reports, board, stop⟩, after, told, -, heard, plays⟩ :=
    Board.play_deafly voiced (.start (.ofProgram settings script) scenario.world) behaved ends 0
      scenario.steps host
  refine ⟨reports, board, stop, after, told, heard, fun journal => ?_⟩
  -- The switch goes along unread, and the journal that it is about is not heard either.
  have switched := Board.play_journaling journal
    (.start (.ofProgram settings script) scenario.world) { host, journal := .new journal } 0
    scenario.steps
  rw [plays { host, journal := .new journal } rfl] at switched
  exact switched

/-- The session after a replay of the program is that of one board, with a journal and without. -/
theorem runSteps_unheard (scenario : Scenario) (script : Option Script) (settings : Settings) :
    ∃ reports board stop after told,
      (∀ line, Told.line line ∈ told → line.target = hostTarget) ∧
      ∀ journal,
        let engine : Engine SimulatedHost := .ofProgram { settings with journal } script
        runSteps 0 scenario.steps
            (.start engine { host := scenario.world.host, journal := engine.journal }
              scenario.world) =
          (reports, (Board.journaling board journal).session
            (({ host := after, journal := .new journal } : Context SimulatedHost).hear told),
              stop) := by
  obtain ⟨reports, board, stop, after, told, heard, plays⟩ :=
    play_unheard hostSays_simulated (fun _ => rfl) scenario script settings scenario.world.host
  refine ⟨reports, board, stop, after, told, heard, fun journal => ?_⟩
  -- The session goes as its board does.
  have replayed := Board.play_session
    (.start (.ofProgram { settings with journal } script) scenario.world)
    { host := scenario.world.host, journal := .new journal } 0 scenario.steps
  rw [plays] at replayed
  exact replayed

end Replay

end DungeonHooks
