import DungeonHooks.Proofs.Engine.Program
import DungeonHooks.Proofs.Replay.Alike

/-! A step that is rejected leaves no trace but the input that it queued. -/

namespace DungeonHooks.Replay

/-- The step was rejected: it named an index that a table has no record for. -/
def StepReport.Rejected (report : StepReport) : Prop :=
  ∃ error : OutOfRange, report.error = some error.message

/-- The input that a step queues. -/
def Step.queued : Step → PlayerInput
  | .menu visit => visit.input
  | _ => {}

/-- Steps of which the next menu is given some more input, in front of its own. -/
def handOn (more : PlayerInput) : List Step → List Step
  | [] => []
  -- The input goes to one menu, and the steps behind it are left as they are.
  | .menu visit :: rest => .menu { visit with input := more.append visit.input } :: rest
  | step :: rest => step :: handOn more rest

/-- Nothing is changed by handing on nothing. -/
@[simp] theorem handOn_empty (steps : List Step) : handOn {} steps = steps := by
  induction steps with
  | nil => rfl
  | cons step rest ih => cases step <;> simp [handOn, PlayerInput.append, ih]

/-- Nothing is handed on if no menu is left. -/
theorem handOn_of_no_menu {more : PlayerInput} {steps : List Step}
    (menuless : ∀ step ∈ steps, step.isMenu = false) : handOn more steps = steps := by
  -- Every step is passed over.
  induction steps with
  | nil => rfl
  | cons step rest ih =>
    obtain ⟨other, later⟩ := List.forall_mem_cons.mp menuless
    cases step with
    | menu visit => cases other
    | _ => simp only [handOn, ih later]

/-- A text begins with the letter that its first part begins with. -/
theorem head?_append {text rest : String} {letter : Char}
    (first : text.toList.head? = some letter) : (text ++ rest).toList.head? = some letter := by
  rw [String.toList_append, List.head?_append, first]
  rfl

/-- A menu that ran out of frames was not rejected. -/
theorem running_not_rejected (report : StepReport) (step : MenuVisit) :
    ¬ (report.running step).Rejected := by
  rintro ⟨error, told⟩
  rw [StepReport.running, Option.some.injEq] at told
  -- The first letters of the two texts differ.
  have rejected : error.message.toList.head? = some 'c' :=
    head?_append (head?_append (head?_append (head?_append (by cases error.table <;> decide))))
  have running : error.message.toList.head? = some 's' := by
    rw [← told]
    exact head?_append (head?_append (head?_append (head?_append (by decide))))
  rw [rejected] at running
  simp at running

/-- An opcode that is not answered leaves the routine and the host as they are. -/
theorem answerOpcode_error {step : OpcodeStep} {session : Session} {error : OutOfRange}
    (rejected : (answerOpcode step session).1 = .error error) :
    (answerOpcode step session).2.1 = session.routine ∧
      (answerOpcode step session).2.2.host = session.context.host := by
  unfold answerOpcode Engine.opcodeParameterCount at rejected ⊢
  cases route : session.engine.settings.routeOpcode step.opcode with
  | native => simp [route, answerCounted] at rejected
  | custom index =>
    simp only [route, Engine.parameterCount, InstructionTable.parameterCount] at rejected ⊢
    cases found : session.engine.instructions.table.get index with
    | error error =>
      -- The count is already unknown, which is told to the journal.
      exact ⟨rfl, rfl⟩
    | ok instruction =>
      simp [found, answerCounted, Engine.handleOpcode, Engine.dispatch, InstructionTable.dispatch,
        route, Except.map] at rejected

/-- Polling a menu never rejects it. -/
theorem pollMenu_not_rejected {step : MenuVisit} {report : StepReport} {session : Session}
    {frames : Nat} {result : StepReport × Session} (fresh : report.error = none)
    (ran : pollMenu step report session frames = .ok result) : ¬ result.1.Rejected := by
  -- A menu finishes, or it runs out of frames; neither names an index.
  induction frames generalizing session with
  | zero =>
    obtain rfl := Except.ok.inj ran
    exact running_not_rejected report step
  | succ frames ih =>
    cases answer : (session.engine.menus.step step.menu session.context).answer with
    | error halt =>
      rw [pollMenu_halted report frames answer] at ran
      contradiction
    | ok polled =>
      rw [pollMenu_succ report frames answer] at ran
      split at ran
      · obtain rfl := Except.ok.inj ran
        rintro ⟨error, told⟩
        rw [StepReport.finished, fresh] at told
        contradiction
      · exact ih ran

/-- Whatever is reported without an error was not rejected. -/
theorem not_rejected_of_error_eq_none {report : StepReport} (fine : report.error = none) :
    ¬ report.Rejected := by
  rintro ⟨error, told⟩
  rw [fine] at told
  contradiction

/-- A rejected step leaves the session as it was, but for the input that it queued. -/
theorem runStep_rejected {index : Nat} {step : Step} {session : Session}
    {result : StepReport × Session} (ran : runStep index step session = .ok result)
    (rejected : result.1.Rejected) : Alike step.queued result.2 session := by
  cases step with
  | opcode step =>
    obtain rfl := Except.ok.inj ran
    cases answer : (answerOpcode step session).1 with
    | error error =>
      obtain ⟨routine, host⟩ := answerOpcode_error answer
      refine ⟨rfl, rfl, rfl, routine, ?_⟩
      exact host.trans (SimulatedHost.queueInput_empty _).symm
    | ok answered =>
      refine absurd rejected (not_rejected_of_error_eq_none ?_)
      simp only [runOpcode, answer]
      cases answered <;> rfl
  | useItem step =>
    obtain ⟨use, -, rfl⟩ := runStep_useItem ran
    exact absurd rejected (not_rejected_of_error_eq_none rfl)
  | useMove step =>
    obtain ⟨pair, -, rfl⟩ := runStep_useMove ran
    exact absurd rejected (not_rejected_of_error_eq_none rfl)
  | specialProcess call =>
    obtain rfl := Except.ok.inj ran
    refine absurd rejected (not_rejected_of_error_eq_none ?_)
    simp only [runProcess]
    cases (session.engine.handleSpecialProcess session.context call).1 <;> rfl
  | menu step =>
    have ran := runStep_menu.mp ran
    rcases runMenu_cases ran with ⟨error, answer, rfl⟩ | ⟨_, polled⟩
    · cases found : session.engine.menus.table.lookup step.menu with
      | error unknown =>
        obtain ⟨_, machine, host⟩ := MenuMachine.start_unknown found
          { session.context with host := session.context.host.queueInput step.input }
        refine ⟨?_, rfl, rfl, rfl, host⟩
        -- The machine is the old one, since nothing was started.
        rw [Session.started, Session.starting, machine]
      | ok descriptor => exact absurd answer (MenuMachine.start_known found _ error)
    · exact absurd rejected (pollMenu_not_rejected rfl polled)

/-- What comes of replaying some steps. -/
abbrev Ran := List StepReport × Session × Option Stop

/-- That a step is over is only logged. -/
theorem Alike.logStep {more : PlayerInput} {session other : Session}
    (alike : Alike more session other) (report : StepReport) :
    Alike more (session.logStep report) other ∧ Alike more session (other.logStep report) :=
  ⟨⟨alike.engine, alike.entities, alike.items, alike.routine, alike.ahead⟩,
    ⟨alike.engine, alike.entities, alike.items, alike.routine, alike.ahead⟩⟩

/-- The log bears on nothing that handlers do. -/
theorem Session.Talks.logStep {session : Session} (talks : session.Talks) (report : StepReport) :
    (session.logStep report).Talks :=
  ⟨talks.handlers, talks.menus⟩

/-- The second replay completes with the reports of the first, and ends alike. -/
structure Matches (ran other : Ran) : Prop where
  completes : other.2.2 = none
  reports : other.1.map (·.numbered 0) = ran.1.map (·.numbered 0)
  alike : ∃ more, Alike more ran.2.1 other.2.1

/-- The same report may stand before reports that match. -/
theorem Matches.cons {ran other : Ran} (rest : Matches ran other) (report : StepReport)
    (index : Nat) :
    Matches (report :: ran.1, ran.2) (report.numbered index :: other.1, other.2) where
  completes := rest.completes
  reports := by
    rw [List.map_cons, List.map_cons, rest.reports]
    rfl
  alike := rest.alike

/-- Replays of alike sessions match, if what one is ahead by is handed on to the next menu of the other. -/
theorem runSteps_alike {more : PlayerInput} {steps : List Step} {session other : Session}
    (alike : Alike more session other) (talks : session.Talks) (first index : Nat)
    (completes : (runSteps first steps session).2.2 = none) :
    Matches (runSteps first steps session) (runSteps index (handOn more steps) other) := by
  induction steps generalizing more session other first index with
  | nil => exact ⟨rfl, rfl, more, alike⟩
  | cons step rest ih =>
    obtain ⟨result, ran, later⟩ := completes_cons completes
    have kept := (runStep_talks talks ran).logStep result.1
    -- Whatever the first step is, the rest matches from alike sessions on.
    have goes {left : PlayerInput} {step' : Step} {after : Session}
        (handed : handOn more (step :: rest) = step' :: handOn left rest)
        (alike : Alike left result.2 after)
        (runs : runStep first step' other = .ok (result.1, after)) :
        Matches (runSteps first (step :: rest) session)
          (runSteps index (handOn more (step :: rest)) other) := by
      rw [handed, runSteps_cons ran, runSteps_cons (runStep_numbered index runs)]
      have alike := ((alike.logStep result.1).1.logStep (result.1.numbered index)).2
      exact (ih alike kept (first + 1) (index + 1) later).cons result.1 index
    cases kind : step.isMenu with
    | false =>
      obtain ⟨after, runs, alike⟩ := runStep_alike alike talks.handlers kind ran
      refine goes ?_ alike runs
      cases step <;> first | rfl | cases kind
    | true =>
      cases step with
      | menu visit =>
        -- The next menu is where the input was handed to, so that no more is left.
        obtain ⟨after, runs, alike⟩ := runMenu_alike alike talks.menus (runStep_menu.mp ran)
        refine goes ?_ alike (runStep_menu.mpr runs)
        rw [handOn_empty]
        rfl
      | _ => cases kind

/-- A replay without a rejected step matches the rest of the one with it. -/
theorem runSteps_without {before after : List Step} {step : Step} {session : Session}
    (talks : session.Talks) (index : Nat) {told : StepReport}
    (completes : (runSteps index (before ++ step :: after) session).2.2 = none)
    (place : (runSteps index (before ++ step :: after) session).1[before.length]? = some told)
    (rejected : told.Rejected) :
    Matches
      ((runSteps index (before ++ step :: after) session).1.eraseIdx before.length,
        (runSteps index (before ++ step :: after) session).2)
      (runSteps index (before ++ handOn step.queued after) session) := by
  induction before generalizing session index with
  | nil =>
    obtain ⟨result, ran, later⟩ := completes_cons completes
    rw [List.nil_append, runSteps_cons ran] at place
    obtain rfl : result.1 = told := by simpa using place
    have kept := (runStep_talks talks ran).logStep result.1
    -- The rejected step left nothing but its input, by which the first session is ahead.
    have alike := ((runStep_rejected ran rejected).logStep result.1).1
    rw [List.nil_append, List.nil_append, runSteps_cons ran]
    exact runSteps_alike alike kept (index + 1) index later
  | cons first before ih =>
    obtain ⟨result, ran, later⟩ := completes_cons completes
    rw [List.cons_append, runSteps_cons ran] at place
    rw [List.cons_append, List.cons_append, runSteps_cons ran, runSteps_cons ran]
    -- The steps before the rejected one are the same in both replays.
    have kept := (runStep_talks talks ran).logStep result.1
    have rest := ih kept (index + 1) later (by simpa using place)
    exact rest.cons result.1 result.1.index

/-- The report of a shorter replay is the report without the step at a place. -/
structure Report.Without (report : Report) (place : Nat) (shorter : Report) : Prop where
  /-- The reports of the other steps are the same, but for their numbers. -/
  steps : shorter.steps.map (·.numbered 0) = (report.steps.eraseIdx place).map (·.numbered 0)
  entities : shorter.entities = report.entities
  items : shorter.items = report.items
  host : shorter.host = report.host

/-- Queued input is not part of what is reported of a host. -/
theorem snapshot_of_ahead {more : PlayerInput} {host other : SimulatedHost}
    (ahead : host.Ahead more other) : host.snapshot = other.snapshot := by
  rw [show host = _ from ahead]
  rfl

/-- A rejected step may be taken out of a scenario: if the input that it queued is given to the next menu, nothing else changes. -/
theorem rejected_step_removed {engine : Engine SimulatedHost} {context : Context SimulatedHost}
    (handlers : engine.Talks fun _ => True) (menus : engine.menus.Talks fun _ => True)
    {scenario : Scenario} {before after : List Step} {step : Step}
    (steps : scenario.steps = before ++ step :: after) {report : Report}
    (completed : (replay scenario engine context).result = .ok report) {told : StepReport}
    (place : report.steps[before.length]? = some told) (rejected : told.Rejected) :
    (∃ shorter, report.Without before.length shorter ∧
      (replay { scenario with steps := before ++ handOn step.queued after } engine context).result =
        .ok shorter) ∧
    (step.queued = {} ∨ (∀ later ∈ after, later.isMenu = false) →
      handOn step.queued after = after) := by
  refine ⟨?_, ?_⟩
  · let session : Session := .start engine context scenario.world
    obtain ⟨goes, ended⟩ := replay_completed completed
    rw [ended.steps] at place
    rw [steps] at goes ended place
    have talks : session.Talks := ⟨handlers, menus⟩
    have matched := runSteps_without talks 0 goes place rejected
    obtain ⟨shorter, runs⟩ := @replay_completes
      { scenario with steps := before ++ handOn step.queued after } engine context
      matched.completes
    obtain ⟨_, ended'⟩ := replay_completed runs
    obtain ⟨more, alike⟩ := matched.alike
    -- Both reports are read off the sessions in which the replays end.
    refine ⟨shorter, ⟨?_, ?_, ?_, ?_⟩, runs⟩
    · rw [ended'.steps, ended.steps]
      exact matched.reports
    · rw [ended'.entities, ended.entities, show Session.entities _ = _ from alike.entities]
    · rw [ended'.items, ended.items, show Session.items _ = _ from alike.items]
    · rw [ended'.snapshot, ended.snapshot, snapshot_of_ahead alike.ahead]
  · rintro (nothing | menuless)
    · rw [nothing, handOn_empty]
    · exact handOn_of_no_menu menuless

/-- A menu that does not exist is given the password for the one after it. -/
def refused : Scenario where
  name := "refused"
  steps :=
    [.menu { menu := 95, input := { keyboard := ["shard"] } },
      .menu { menu := 81, frameLimit := 3 }]

/-- The first menu of the scenario is rejected, and the second one is handled. -/
theorem refused_reports :
    ∃ report told, (replay refused (Engine.new {}) { host := refused.world.host }).result =
        .ok report ∧ report.steps[0]? = some told ∧ told.Rejected ∧
      (report.steps.eraseIdx 0).map (·.handled) = [true] := by
  let error : OutOfRange := { table := .menus, index := 15, len := 3 }
  -- The replay is evaluated for what its reports tell, and for no more.
  have told : (replay refused (Engine.new {}) { host := refused.world.host }).result.toOption.map
      (fun report => (report.steps[0]?.map (·.error), (report.steps.eraseIdx 0).map (·.handled))) =
        some (some (some error.message), [true]) := by
    decide +kernel
  cases completed : (replay refused (Engine.new {}) { host := refused.world.host }).result with
  | error stop => simp [completed, Except.toOption] at told
  | ok report =>
    simp only [completed, Except.toOption, Option.map_some, Option.some.injEq, Prod.mk.injEq,
      Option.map_eq_some_iff] at told
    obtain ⟨⟨first, place, message⟩, handled⟩ := told
    exact ⟨report, first, rfl, place, ⟨error, message⟩, handled⟩

/-- Without it, the password has to be given to the second menu. -/
theorem refused_menu_removed :
    ∃ report shorter, (replay refused (Engine.new {}) { host := refused.world.host }).result =
        .ok report ∧ report.Without 0 shorter ∧
      (replay { refused with steps := handOn { keyboard := ["shard"] } (refused.steps.drop 1) }
        (Engine.new {}) { host := refused.world.host }).result = .ok shorter := by
  obtain ⟨report, told, completed, place, rejected, -⟩ := refused_reports
  have handlers : (Engine.new {} : Engine SimulatedHost).Talks fun _ => True :=
    Engine.program_talks (fun _ _ => trivial) {} []
  -- Nothing stands before the rejected step, and one menu after it.
  have steps : refused.steps = [] ++ .menu { menu := 95, input := { keyboard := ["shard"] } } ::
      [.menu { menu := 81, frameLimit := 3 }] := rfl
  obtain ⟨⟨shorter, same, runs⟩, -⟩ := rejected_step_removed handlers
    (MenuMachine.builtin_talks _) steps completed place rejected
  exact ⟨report, shorter, completed, same, runs⟩

/-- The scenario with the first menu taken out, and nothing handed on. -/
def passwordless : Scenario :=
  { refused with steps := refused.steps.eraseIdx 0 }

/-- If the first menu is only taken out, the second one waits for the password in vain. -/
theorem refused_menu_missed :
    ∃ report shorter, (replay refused (Engine.new {}) { host := refused.world.host }).result =
        .ok report ∧ (∃ told, report.steps[0]? = some told ∧ told.Rejected) ∧
      (replay passwordless (Engine.new {}) { host := refused.world.host }).result = .ok shorter ∧
      ¬ report.Without 0 shorter := by
  obtain ⟨report, told, completed, place, rejected, handled⟩ := refused_reports
  have missed :
      (replay passwordless (Engine.new {}) { host := refused.world.host }).result.toOption.map
        (fun shorter => shorter.steps.map (·.handled)) = some [false] := by
    decide +kernel
  cases runs : (replay passwordless (Engine.new {}) { host := refused.world.host }).result with
  | error stop =>
    rw [runs] at missed
    contradiction
  | ok shorter =>
    rw [runs] at missed
    have missed : shorter.steps.map (·.handled) = [false] := Option.some.inj missed
    refine ⟨report, shorter, completed, ⟨told, place, rejected⟩, rfl, fun same => ?_⟩
    -- The numbers of the reports have no part in what was handled.
    have alike := congrArg (List.map (·.handled)) same.steps
    simp only [List.map_map, Function.comp_def, StepReport.numbered, missed, handled] at alike
    simp at alike

end DungeonHooks.Replay
