import DungeonHooks.Proofs.Engine.Warnings
import DungeonHooks.Proofs.Menu.Returns
import DungeonHooks.Proofs.Replay.Steps
import DungeonHooks.Script.Load

/-! How often a replay warns of a special process: once for each step that asks for one and finds nobody to claim it. -/

namespace DungeonHooks

open Journal

section

variable {σ : Type} [Host σ] {machine : MenuMachine σ}
  (talks : machine.Talks fun request => request.alarms = false) (returns : machine.Returns)

include talks returns

/-- Starting a menu warns of no special process, if its menus do not. -/
theorem MenuMachine.start_warned (menu : Int32) (cx : Context σ) :
    Warned 0 cx.journal (machine.start menu cx).context.journal :=
  (start_spoken (fun _ _ => Bool.and_false _) talks returns menu).warned cx

/-- Neither does polling it. -/
theorem MenuMachine.step_warned (menu : Int32) (cx : Context σ) :
    Warned 0 cx.journal (machine.step menu cx).context.journal :=
  (step_spoken (fun _ _ => Bool.and_false _) talks returns menu).warned cx

end

namespace Replay

/-- All requests are allowed but warnings about special processes. -/
theorem ordinary_of_calm : Ordinary fun request => request.alarms = false :=
  fun _ _ calm => calm

/-- Nothing in the engine warns of a special process but its chain, and the settings are the given ones. -/
structure Session.Calm (settings : Settings) (session : Session) : Prop where
  settings : session.engine.settings = settings
  handlers : session.engine.Talks fun request => request.alarms = false
  menus : session.engine.menus.Talks fun request => request.alarms = false
  returns : session.engine.menus.Returns

section

variable {settings : Settings} {session after : Session}

/-- It does not matter in which state the menus are. -/
theorem Session.Calm.inState (calm : session.Calm settings) {state : MenuState}
    (engine : after.engine = inState session.engine state) : after.Calm settings := by
  -- The menus and the handlers are the same ones.
  obtain ⟨_, context, entities, items, routine⟩ := after
  obtain rfl := engine
  exact ⟨calm.settings, ⟨calm.handlers.effects, calm.handlers.instructions⟩, calm.menus,
    calm.returns⟩

/-- Polling a menu until it is over warns of nothing. -/
theorem pollMenu_warned (calm : session.Calm settings) {step : MenuVisit} {report : StepReport}
    {frames : Nat} {result : StepReport × Session}
    (ran : pollMenu step report session frames = .ok result) :
    Warned 0 session.context.journal result.2.context.journal := by
  induction frames generalizing session with
  | zero =>
    obtain rfl := Except.ok.inj ran
    exact .refl session.context.journal
  | succ frames ih =>
    obtain ⟨answer, polls⟩ := MenuMachine.step_answers calm.returns step.menu session.context
    have polled := MenuMachine.step_warned calm.menus calm.returns step.menu session.context
    rw [pollMenu_succ report frames polls] at ran
    split at ran
    · obtain rfl := Except.ok.inj ran
      exact polled
    · -- Between two polls only the player acts.
      have same := withMenus_eq_inState
        (MenuMachine.step_table session.engine.menus step.menu session.context)
      have later : (session.polled step.menu).nextFrame.Calm settings := calm.inState same
      exact polled.after_none (ih later ran)

/-- A menu step warns of nothing. -/
theorem runMenu_warned (calm : session.Calm settings) {step : MenuVisit} {report : StepReport}
    {result : StepReport × Session} (ran : runMenu step report session = .ok result) :
    Warned 0 session.context.journal result.2.context.journal := by
  have started : Warned 0 session.context.journal (session.started step).context.journal :=
    MenuMachine.start_warned calm.menus calm.returns step.menu
      { session.context with host := session.context.host.queueInput step.input }
  have same := withMenus_eq_inState (MenuMachine.start_table session.engine.menus step.menu
    { session.context with host := session.context.host.queueInput step.input })
  rcases runMenu_cases ran with ⟨error, -, rfl⟩ | ⟨-, polled⟩
  · exact started
  · have begun : (session.started step).Calm settings := calm.inState same
    exact started.after_none (pollMenu_warned begun polled)

end

/-- The turn puts a special process to the chain, and no resolver claims it. -/
def Turn.unclaimed (settings : Settings) (turn : Turn) : Bool :=
  match turn.step with
  | .specialProcess call =>
    let resolvers := turn.before.engine.effects.resolvers
    decide (settings.specialProcessThreshold ≤ call.id ∧
      AllDecline (call.verdicts resolvers turn.before.context))
  | _ => false

/-- A process that is put to the chain changes no settings. -/
theorem handleSpecialProcess_settings {σ : Type} (engine : Engine σ) (cx : Context σ)
    (call : ProcessCall) :
    (engine.handleSpecialProcess cx call).2.1.settings = engine.settings := by
  unfold Engine.handleSpecialProcess
  split <;> rfl

/-- No step changes the settings. -/
theorem runStep_settings {index : Nat} {step : Step} {session : Session}
    {result : StepReport × Session} (ran : runStep index step session = .ok result) :
    result.2.engine.settings = session.engine.settings := by
  cases step with
  | opcode step =>
    cases ran
    rfl
  | useItem step =>
    obtain ⟨use, -, rfl⟩ := runStep_useItem ran
    rfl
  | useMove step =>
    obtain ⟨pair, -, rfl⟩ := runStep_useMove ran
    rfl
  | specialProcess call =>
    cases ran
    exact handleSpecialProcess_settings session.engine session.context call
  | menu step =>
    obtain ⟨state, engine⟩ := runMenu_engine (runStep_menu.mp ran)
    rw [engine]
    rfl

/-- A step leaves the engine calm. -/
theorem runStep_calm {settings : Settings} {index : Nat} {step : Step} {session after : Session}
    {report : StepReport} (calm : session.Calm settings)
    (ran : runStep index step session = .ok (report, after)) : after.Calm settings := by
  cases kind : step.isMenu with
  | false =>
    obtain ⟨menus, talks⟩ := runStep_continues kind ran
    exact ⟨(runStep_settings ran).trans calm.settings, talks calm.handlers, menus ▸ calm.menus,
      menus ▸ calm.returns⟩
  | true =>
    -- A menu changes no more than the state of the menus.
    cases step <;> try cases kind
    obtain ⟨state, engine⟩ := runMenu_engine (runStep_menu.mp ran)
    exact calm.inState engine

/-- A step warns of its special process if it is put to the chain and not claimed, and of nothing else. -/
theorem runStep_warned {settings : Settings} {index : Nat} {turn : Turn} {after : Session}
    (calm : turn.before.Calm settings)
    (ran : runStep index turn.step turn.before = .ok (turn.report, after)) :
    Warned (if turn.unclaimed settings then 1 else 0) turn.before.context.journal
      after.context.journal := by
  obtain ⟨step, session, report, _⟩ := turn
  dsimp only at calm ran
  -- Steps that are no process and no menu are talks of ordinary requests.
  cases step with
  | opcode step =>
    cases ran
    exact (Board.spoken_session
      (session.board.opcode_spoken ordinary_of_calm calm.handlers { index, kind := "opcode" } step)
      session.context (session.board.opcode_session _ · step)).warned session.context
  | useItem step =>
    obtain ⟨use, -, left⟩ := runStep_useItem ran
    cases left
    exact (Board.spoken_session
      (session.board.useItem_spoken ordinary_of_calm calm.handlers { index, kind := "use_item" }
        step use) session.context fun _ => rfl).warned session.context
  | useMove step =>
    obtain ⟨pair, -, left⟩ := runStep_useMove ran
    cases left
    exact (Board.spoken_session
      (session.board.useMove_spoken ordinary_of_calm calm.handlers { index, kind := "use_move" }
        step pair) session.context
      (session.board.useMove_session _ · step pair)).warned session.context
  | specialProcess call =>
    obtain ⟨-, rfl⟩ := Prod.mk.inj (Except.ok.inj ran)
    have warned := Engine.handleSpecialProcess_warned calm.handlers session.context call
    rw [calm.settings] at warned
    simp only [Turn.unclaimed, decide_eq_true_eq]
    exact warned
  | menu step => exact runMenu_warned calm (runStep_menu.mp ran)

/-- What the report of a replay tells of special processes, turn by turn. -/
structure Report.TellsProcesses (report : Report) (settings : Settings) (history : List Turn) :
    Prop where
  /-- The reported steps are those of the history. -/
  steps : report.steps = history.map (·.report)
  /-- All the while, the engine has the same settings. -/
  steady : ∀ turn ∈ history, turn.before.engine.settings = settings
  /-- The journal has a warning for each process that was put to the chain and not claimed. -/
  warnings : report.journal.countP (·.alarms) = history.countP (·.unclaimed settings)
  /-- From the threshold on, a step is handled, with the value that the engine answers. -/
  custom : ∀ turn ∈ history, ∀ call, turn.step = .specialProcess call →
    settings.specialProcessThreshold ≤ call.id →
      ∃ value, (turn.before.engine.handleSpecialProcess turn.before.context call).1 = some value ∧
        turn.report.handled = true ∧ turn.report.value = some value
  /-- Below it, the step is left to the host, with the value 0. -/
  native : ∀ turn ∈ history, ∀ call, turn.step = .specialProcess call →
    call.id < settings.specialProcessThreshold →
      turn.report.handled = false ∧ turn.report.value = some 0

/-- A special process is reported as the engine answers it. -/
theorem Turn.Taken.processed {turn : Turn} (taken : turn.Taken) {call : ProcessCall}
    (asked : turn.step = .specialProcess call) :
    ∃ index, turn.report = StepReport.processed { index, kind := "special_process" } call
      (turn.before.engine.handleSpecialProcess turn.before.context call).1 := by
  obtain ⟨index, after, ran, -⟩ := taken
  rw [asked] at ran
  obtain ⟨report, -⟩ := Prod.mk.inj (Except.ok.inj ran)
  exact ⟨index, report.symm⟩

/-- The warnings of the turns so far are in the journal, which has been enabled all the while. -/
structure Warns (settings : Settings) (past : List Turn) (session : Session) : Prop where
  calm : session.Calm settings
  steady : ∀ turn ∈ past, turn.before.engine.settings = settings
  enabled : session.context.journal.enabled = true
  warnings : session.context.journal.count .specialProcess .warn =
    past.countP (·.unclaimed settings)

/-- A turn adds its own warning to those of the turns before it. -/
theorem Warns.turn {settings : Settings} {past : List Turn} {turn : Turn}
    (warns : Warns settings past turn.before) (taken : turn.Taken) :
    Warns settings (past ++ [turn]) turn.after := by
  obtain ⟨index, after, ran, logged⟩ := taken
  -- That the turn is over is told to the log, not to the journal.
  rw [logged]
  have warned := runStep_warned warns.calm ran
  have calm : (after.logStep turn.report).Calm settings :=
    have left := runStep_calm warns.calm ran
    ⟨left.settings, left.handlers, left.menus, left.returns⟩
  refine ⟨calm, ?_, warned.enabled.trans warns.enabled, ?_⟩
  · intro other member
    rcases List.mem_append.mp member with earlier | last
    · exact warns.steady other earlier
    · rw [List.mem_singleton.mp last, warns.calm.settings]
  · have kept := warned.kept
    rw [warns.enabled, warns.warnings, if_pos rfl] at kept
    rw [List.countP_append, List.countP_singleton]
    exact kept

/-- An engine of the program, with the built-in local table and any scripts, is calm. -/
theorem program_calm (settings : Settings) (scripts : List Script)
    (context : Context SimulatedHost) (world : WorldSetup) :
    (Session.start (.new settings .builtin (scripts.map Script.resolver)) context world).Calm
      settings where
  settings := rfl
  handlers := Engine.program_talks_ordinary ordinary_of_calm settings scripts
  menus := MenuMachine.builtin_calm settings.firstCustomMenu
  returns := MenuMachine.builtin_returns settings.firstCustomMenu

/-- A replay that completes reports the journal that its last step left. -/
theorem replay_journal {scenario : Scenario} {engine : Engine SimulatedHost}
    {context : Context SimulatedHost} {report : Report}
    (completed : (replay scenario engine context).result = .ok report) :
    let ended := runSteps 0 scenario.steps (.start engine context scenario.world)
    report.journal = ended.2.1.context.journal.entries := by
  unfold replay at completed
  dsimp only at completed
  split at completed
  · contradiction
  · obtain rfl := Except.ok.inj completed
    rfl

/-- The replay of an engine of the program tells of each special process what became of it. -/
theorem replay_tells_processes {settings : Settings} {scripts : List Script}
    {scenario : Scenario} {context : Context SimulatedHost} {report : Report}
    (fresh : context.journal = .new true) :
    let engine : Engine SimulatedHost := .new settings .builtin (scripts.map Script.resolver)
    (replay scenario engine context).result = .ok report →
      report.TellsProcesses settings (scenario.turns engine context) := by
  intro engine completed
  have start : Warns settings [] (.start engine context scenario.world) :=
    { calm := program_calm settings scripts context scenario.world
      steady := by simp
      enabled := congrArg Journal.enabled fresh
      warnings := congrArg (Journal.count · .specialProcess .warn) fresh }
  have last : Warns settings ([] ++ scenario.turns engine context) _ :=
    (turns_invariant (fun past turn taken warns => warns.turn taken) 0 start).2
  obtain ⟨-, ended⟩ := replay_completed completed
  obtain ⟨reports, -⟩ := runSteps_eq_turns 0 scenario.steps (.start engine context scenario.world)
  have taken : ∀ turn ∈ scenario.turns engine context, turn.Taken := fun _ => turns_taken
  refine ⟨ended.steps.trans reports, last.steady, ?_, ?_, ?_⟩
  · rw [replay_journal completed]
    exact last.warnings
  · intro turn member call asked reached
    obtain ⟨index, told⟩ := (taken turn member).processed asked
    -- A process that is put to the chain has a value, claimed or not.
    rw [← last.steady turn member] at reached
    rw [Engine.handleSpecialProcess_custom reached rfl] at told ⊢
    exact ⟨_, rfl, by rw [told]; rfl, by rw [told]; rfl⟩
  · intro turn member call asked below
    obtain ⟨index, told⟩ := (taken turn member).processed asked
    rw [← last.steady turn member] at below
    rw [Engine.handleSpecialProcess_native below] at told
    exact ⟨by rw [told]; rfl, by rw [told]; rfl⟩

/-- Claims process 5 with its second argument, and fails in process 7. -/
def ritesText : String :=
  "special_processes[#\"claim\"] = function(first, second) return second end " ++
    "special_processes[#\"failing\"] = function() error(\"no\") end"

/-- Settings that leave only the first few processes to the host. -/
def ritesSettings : Settings :=
  { specialProcessThreshold := 4 }

/-- The script behind the local table, if it can be loaded. -/
def ritesScripts : List Script :=
  (Script.load "rites" ritesText).toOption.toList

/-- The engine with this script. -/
def ritesEngine : Engine SimulatedHost :=
  .new ritesSettings .builtin (ritesScripts.map Script.resolver)

/-- Processes that are native, claimed by the script, failed, claimed by the table, and unknown. -/
def rites : Scenario where
  name := "rites"
  steps :=
    [.specialProcess { id := 3 }, .specialProcess { id := 5, first := 3, second := 4 },
      .specialProcess { id := 7 }, .specialProcess { id := 100, first := 6 },
      .specialProcess { id := 8, first := 9 }]

end Replay

end DungeonHooks
