import DungeonHooks.Proofs.Replay.Together

/-! Two replays that differ only in input that one of them has queued already go on alike. -/

namespace DungeonHooks.Replay

namespace SimulatedHost

/-- The first host has queued more input, behind that of the second, and is the same otherwise. -/
def Ahead (more : PlayerInput) (host other : SimulatedHost) : Prop :=
  host = other.queueInput more

/-- Input that is nothing changes nothing when it is queued. -/
theorem queueInput_empty (host : SimulatedHost) : host.queueInput {} = host := by
  simp [queueInput, PlayerInput.append]

/-- What is queued twice is queued together. -/
theorem queueInput_queueInput (host : SimulatedHost) (first second : PlayerInput) :
    (host.queueInput first).queueInput second = host.queueInput (first.append second) := by
  simp [queueInput, PlayerInput.append, List.append_assoc]

/-- Closing a window has nothing to do with the queued input. -/
theorem closeWindow_queueInput (kind : WindowKind) (id : WindowId) (host : SimulatedHost)
    (more : PlayerInput) :
    (closeWindow kind id (host.queueInput more)).host =
      (closeWindow kind id host).host.queueInput more := by
  -- The window is looked for among the same windows.
  have found : (host.queueInput more).window? kind id = host.window? kind id := rfl
  unfold closeWindow
  rw [found]
  split <;> rfl

/-- No request reads the queued input, and none changes it. -/
theorem respected_ahead (more : PlayerInput) : Respected (fun _ => True) (Ahead more) := by
  intro request _ cx other ahead
  obtain ⟨_, journal, log⟩ := cx
  obtain rfl := ahead
  cases request
  case randRange low high =>
    -- A draw takes the next number, if there is one.
    simp only [Request.serve, Context.call, Host.randRange, Reply.still, draw]
    cases random : other.host.random <;> simp [Ahead, queueInput, random]
  case closeAdvancedMenu id => exact ⟨rfl, closeWindow_queueInput .advanced id other.host more⟩
  case closeSimpleMenu id => exact ⟨rfl, closeWindow_queueInput .simple id other.host more⟩
  case closePortraitBox id => exact ⟨rfl, closeWindow_queueInput .portrait id other.host more⟩
  all_goals exact ⟨rfl, rfl⟩

end SimulatedHost

/-- The sessions differ in nothing but queued input, journal and log. -/
structure Alike (more : PlayerInput) (session other : Session) : Prop where
  engine : session.engine = other.engine
  entities : session.entities = other.entities
  items : session.items = other.items
  routine : session.routine = other.routine
  ahead : session.context.host.Ahead more other.context.host

/-- All handlers and menus of the session only talk to their host. -/
structure Session.Talks (session : Session) : Prop where
  handlers : session.engine.Talks fun _ => True
  menus : session.engine.menus.Talks fun _ => True

section Steps

variable {more : PlayerInput} {session other : Session}

/-- Alike sessions share all but their contexts. -/
theorem Alike.eq (alike : Alike more session other) :
    session = { other with context := session.context } := by
  obtain ⟨engine, context, entities, items, routine⟩ := session
  obtain ⟨rfl, rfl, rfl, rfl, _⟩ := alike
  rfl

/-- A step that is no menu goes alike in alike sessions. -/
theorem runStep_alike (alike : Alike more session other)
    (talks : session.engine.Talks fun _ => True) {step : Step} (kind : step.isMenu = false)
    {index : Nat} {result : StepReport × Session}
    (ran : runStep index step session = .ok result) :
    ∃ after, runStep index step other = .ok (result.1, after) ∧ Alike more result.2 after := by
  have wide : Wide fun _ => True := fun _ _ => trivial
  rw [alike.engine] at talks
  rw [alike.eq] at ran
  rcases runStep_spoken wide talks index kind with ⟨stop, stops⟩ | ⟨act, runs, spoken⟩
  · rw [stops] at ran
    contradiction
  · obtain rfl := Except.ok.inj ((runs session.context).symm.trans ran)
    obtain ⟨said, ahead⟩ := spoken.respects (SimulatedHost.respected_ahead more) alike.ahead
    -- What is said in both sessions is the report, and all of the session but its context.
    obtain ⟨report, rest⟩ := Prod.mk.inj said
    have rest : (act session.context).2 =
        { (act other.context).2 with context := (act session.context).2.context } :=
      congrArg (fun left : Session => { left with context := (act session.context).2.context }) rest
    refine ⟨(act other.context).2, ?_, ?_⟩
    · rw [report]
      exact runs other.context
    · exact ⟨congrArg (·.engine) rest, congrArg (·.entities) rest, congrArg (·.items) rest,
        congrArg (·.routine) rest, ahead⟩

/-- Menus that agree go on from alike sessions to alike sessions. -/
theorem Alike.called {α : Type} {reply reply' : MenuReply SimulatedHost α} {rest : PlayerInput}
    (alike : Alike more session other) (agrees : reply.Agrees (SimulatedHost.Ahead rest) reply') :
    Alike rest
      { session with
        engine := { session.engine with menus := reply.machine }, context := reply.context }
      { other with
        engine := { other.engine with menus := reply'.machine }, context := reply'.context } where
  -- The menus and the host come from the replies, the rest from the sessions.
  engine := by rw [alike.engine, agrees.machine]
  entities := alike.entities
  items := alike.items
  routine := alike.routine
  ahead := agrees.host

/-- With nothing more queued, alike sessions share their host and their menus. -/
theorem Alike.shared : MenusShared fun session other =>
    Alike {} session other ∧ session.engine.menus.Talks fun _ => True where
  host := fun ⟨alike, _⟩ => alike.ahead.trans (SimulatedHost.queueInput_empty _)
  menus := fun ⟨alike, _⟩ => congrArg (·.menus) alike.engine
  talks := fun ⟨_, talks⟩ => talks
  call := by
    rintro session other ⟨alike, talks⟩ machine _ cx cx' rfl table host
    refine ⟨⟨by rw [alike.engine], alike.entities, alike.items, alike.routine, ?_⟩, ?_⟩
    · exact host.trans (SimulatedHost.queueInput_empty _).symm
    · -- The menus are the same ones in another state.
      intro descriptor member
      rw [table] at member
      exact talks descriptor member

/-- A menu is polled alike in alike sessions, whatever input it was visited with. -/
theorem pollMenu_alike {step : MenuVisit} (input : PlayerInput) {report : StepReport}
    {frames : Nat} {result : StepReport × Session} (alike : Alike {} session other)
    (menus : session.engine.menus.Talks fun _ => True)
    (ran : pollMenu step report session frames = .ok result) :
    ∃ after, pollMenu { step with input } report other frames = .ok (result.1, after) ∧
      Alike {} result.2 after := by
  have polls := pollMenu_together Alike.shared step input report frames ⟨alike, menus⟩
  rw [ran] at polls
  -- The first menu does not halt, so neither does the second.
  obtain ⟨⟨_, after⟩, runs, rfl, alike, _⟩ := polls.ok
  exact ⟨after, runs, alike⟩

/-- A menu that is visited with the input that one host is ahead by goes alike, and leaves neither ahead. -/
theorem runMenu_alike {step : MenuVisit} {report : StepReport} {result : StepReport × Session}
    (alike : Alike more session other) (menus : session.engine.menus.Talks fun _ => True)
    (ran : runMenu step report session = .ok result) :
    ∃ after,
      runMenu { step with input := more.append step.input } report other = .ok (result.1, after) ∧
        Alike {} result.2 after := by
  let visit : MenuVisit := { step with input := more.append step.input }
  -- The first host has the additional input already, behind which its own is queued.
  have queued : (session.context.host.queueInput step.input).Ahead {}
      (other.context.host.queueInput visit.input) := by
    rw [SimulatedHost.Ahead, SimulatedHost.queueInput_empty,
      show session.context.host = _ from alike.ahead, SimulatedHost.queueInput_queueInput]
  have agrees : (session.starting step).Agrees (SimulatedHost.Ahead {}) (other.starting visit) := by
    rw [Session.starting, Session.starting, ← alike.engine]
    exact MenuMachine.start_agrees (menus.respects (SimulatedHost.respected_ahead {})) step.menu
      queued
  have started : Alike {} (session.started step) (other.started visit) := alike.called agrees
  have kept : (session.started step).engine.menus.Talks fun _ => True := by
    intro descriptor member
    rw [Session.started, Session.starting, MenuMachine.start_table] at member
    exact menus descriptor member
  rw [runMenu_eq visit report other, ← agrees.answer]
  rcases runMenu_cases ran with ⟨error, answer, rfl⟩ | ⟨answer, polled⟩
  · rw [answer]
    exact ⟨_, rfl, started⟩
  · rw [answer]
    exact pollMenu_alike visit.input started kept polled

/-- A step leaves handlers and menus that only talk to their host as they are. -/
theorem runStep_talks {index : Nat} {step : Step} {result : StepReport × Session}
    (talks : session.Talks) (ran : runStep index step session = .ok result) :
    result.2.Talks := by
  cases kind : step.isMenu with
  | false =>
    have continues : Continues (fun _ => True) session.engine result.2.engine :=
      runStep_continues kind ran
    exact ⟨continues.talks talks.handlers, continues.menus ▸ talks.menus⟩
  | true =>
    cases step with
    | menu visit =>
      -- Only the state of the menus changes.
      obtain ⟨state, engine⟩ := runMenu_engine (runStep_menu.mp ran)
      refine ⟨?_, ?_⟩
      · rw [engine]
        exact ⟨talks.handlers.effects, talks.handlers.instructions⟩
      · rw [engine]
        exact talks.menus
    | _ => simp [Step.isMenu] at kind

/-- A report with another number. -/
def StepReport.numbered (report : StepReport) (index : Nat) : StepReport :=
  { report with index }

/-- Polling a menu does not depend on the number of the step. -/
theorem pollMenu_numbered {step : MenuVisit} {report : StepReport} {frames : Nat}
    {result : StepReport × Session} (index : Nat)
    (ran : pollMenu step report session frames = .ok result) :
    pollMenu step (report.numbered index) session frames =
      .ok (result.1.numbered index, result.2) := by
  -- The number is handed through from poll to poll.
  induction frames generalizing session with
  | zero =>
    obtain rfl := Except.ok.inj ran
    rfl
  | succ frames ih =>
    cases answer : (session.engine.menus.step step.menu session.context).answer with
    | error halt =>
      rw [pollMenu_halted report frames answer] at ran
      contradiction
    | ok polled =>
      rw [pollMenu_succ report frames answer] at ran
      rw [pollMenu_succ _ frames answer]
      split at ran
      case isTrue ended =>
        obtain rfl := Except.ok.inj ran
        rw [if_pos ended]
        rfl
      case isFalse going =>
        rw [if_neg going]
        exact ih ran

/-- What a step does does not depend on its number. -/
theorem runStep_numbered {step : Step} {first : Nat} {result : StepReport × Session} (index : Nat)
    (ran : runStep first step session = .ok result) :
    runStep index step session = .ok (result.1.numbered index, result.2) := by
  cases step with
  | opcode step =>
    obtain rfl := Except.ok.inj ran
    simp only [runStep, runOpcode]
    -- The number is no part of any of the answers.
    rcases (answerOpcode step session).1 with error | _ | answer <;> rfl
  | useItem step =>
    obtain ⟨use, found, rfl⟩ := runStep_useItem ran
    simp only [runStep, found]
    rfl
  | useMove step =>
    obtain ⟨pair, found, rfl⟩ := runStep_useMove ran
    simp only [runStep, found]
    rfl
  | specialProcess call =>
    obtain rfl := Except.ok.inj ran
    simp only [runStep, runProcess]
    -- Neither is the value.
    cases (session.engine.handleSpecialProcess session.context call).1 <;> rfl
  | menu step =>
    rw [runStep_menu] at ran ⊢
    rw [runMenu_eq]
    rcases runMenu_cases ran with ⟨error, answer, rfl⟩ | ⟨answer, polled⟩
    · rw [answer]
      rfl
    · rw [answer]
      exact pollMenu_numbered index polled

end Steps

end DungeonHooks.Replay
