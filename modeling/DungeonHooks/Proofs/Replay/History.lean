import DungeonHooks.Replay.Run

/-! The history of a replay: its turns, one after the other, and what holds after each of them. -/

namespace DungeonHooks.Replay

/-- A step that was replayed, with its report and the session on both sides of it. -/
structure Turn : Type 1 where
  step : Step
  before : Session
  report : StepReport
  after : Session

/-- The turn is one that a replay takes: its step runs, and that it is over is logged. -/
def Turn.Taken (turn : Turn) : Prop :=
  ∃ index after, runStep index turn.step turn.before = .ok (turn.report, after) ∧
    turn.after = after.logStep turn.report

/-- The turns of some steps, up to one that stops the replay. -/
def turns : Nat → List Step → Session → List Turn
  | _, [], _ => []
  | index, step :: rest, session =>
    -- A step that stops the replay leaves no turn.
    match runStep index step session with
    | .error _ => []
    | .ok (report, after) =>
      let after := after.logStep report
      { step, before := session, report, after } :: turns (index + 1) rest after

/-- The turns of a scenario that is replayed on a host. -/
def Scenario.turns (scenario : Scenario) (engine : Engine SimulatedHost)
    (context : Context SimulatedHost) : List Turn :=
  Replay.turns 0 scenario.steps (.start engine context scenario.world)

/-- The session that a history ends in, given the one that it began with. -/
def lastSession (session : Session) (history : List Turn) : Session :=
  (history.getLast?.map (·.after)).getD session

/-- A later turn leaves the first session of a history behind. -/
@[simp] theorem lastSession_cons (session : Session) (turn : Turn) (rest : List Turn) :
    lastSession session (turn :: rest) = lastSession turn.after rest := by
  -- Only a history of one turn ends in that turn itself.
  cases rest with
  | nil => rfl
  | cons next rest => simp [lastSession, List.getLast?_cons]

section

variable {index : Nat} {session : Session} {result : StepReport × Session}

/-- The use of an item is replayed on what the step names, which is all there. -/
theorem runStep_useItem {step : ItemStep} (ran : runStep index (.useItem step) session = .ok result) :
    ∃ use, session.itemUse step = .ok use ∧
      result = runItem step { index, kind := "use_item" } use session := by
  unfold runStep at ran
  -- What is not there stops the replay.
  cases found : session.itemUse step with
  | error cause => simp [found] at ran
  | ok use =>
    simp only [found, Except.ok.injEq] at ran
    exact ⟨use, rfl, ran.symm⟩

/-- So is the use of a move. -/
theorem runStep_useMove {step : MoveStep} (ran : runStep index (.useMove step) session = .ok result) :
    ∃ pair, session.pair step.user step.target = .ok pair ∧
      result = runMove step { index, kind := "use_move" } pair session := by
  unfold runStep at ran
  cases found : session.pair step.user step.target with
  | error cause => simp [found] at ran
  | ok pair =>
    simp only [found, Except.ok.injEq] at ran
    exact ⟨pair, rfl, ran.symm⟩

end

/-- A replay goes first by its first step, unless that stops it, and then on from there. -/
theorem runSteps_cons {index : Nat} {step : Step} {rest : List Step} {session : Session}
    {result : StepReport × Session} (ran : runStep index step session = .ok result) :
    runSteps index (step :: rest) session =
      (result.1 :: (runSteps (index + 1) rest (result.2.logStep result.1)).1,
        (runSteps (index + 1) rest (result.2.logStep result.1)).2) := by
  -- The steps behind it go on from the session after it was logged.
  simp only [runSteps, ran]

/-- The first step of a replay that completes does not stop it, and neither do the others. -/
theorem completes_cons {index : Nat} {step : Step} {rest : List Step} {session : Session}
    (completes : (runSteps index (step :: rest) session).2.2 = none) :
    ∃ result, runStep index step session = .ok result ∧
      (runSteps (index + 1) rest (result.2.logStep result.1)).2.2 = none := by
  -- A step that stops the replay would be the reason for stopping.
  cases ran : runStep index step session with
  | error stop => simp [runSteps, ran] at completes
  | ok result =>
    rw [runSteps_cons ran] at completes
    exact ⟨result, rfl, completes⟩

/-- The reports of a replay are those of its turns, and it ends where the last turn ends. -/
theorem runSteps_eq_turns (index : Nat) (steps : List Step) (session : Session) :
    (runSteps index steps session).1 = (turns index steps session).map (·.report) ∧
      (runSteps index steps session).2.1 = lastSession session (turns index steps session) := by
  induction steps generalizing index session with
  | nil => exact ⟨rfl, rfl⟩
  | cons step rest ih =>
    simp only [runSteps, turns]
    cases ran : runStep index step session with
    -- A step that stops the replay is no turn of it.
    | error stop => exact ⟨rfl, rfl⟩
    | ok result =>
      obtain ⟨reports, last⟩ := ih (index + 1) (result.2.logStep result.1)
      simp only [List.map_cons, lastSession_cons]
      exact ⟨by rw [reports], last⟩

/-- Every turn of a history is one that the replay takes. -/
theorem turns_taken {index : Nat} {steps : List Step} {session : Session} {turn : Turn}
    (member : turn ∈ turns index steps session) : turn.Taken := by
  induction steps generalizing index session with
  | nil => simp [turns] at member
  | cons step rest ih =>
    unfold turns at member
    cases ran : runStep index step session with
    | error stop => simp [ran] at member
    | ok result =>
      simp only [ran, List.mem_cons] at member
      rcases member with rfl | later
      -- The first turn is taken by its own step, the others by those after it.
      · exact ⟨index, result.2, ran, rfl⟩
      · exact ih later

/-- What holds of the turns so far and is kept by the next one holds after each of them, and at the end. -/
theorem turns_invariant {inv : List Turn → Session → Prop}
    (keeps : ∀ past (turn : Turn), turn.Taken → inv past turn.before →
      inv (past ++ [turn]) turn.after)
    (index : Nat) {steps : List Step} {session : Session} {done : List Turn}
    (start : inv done session) :
    (∀ past turn future, turns index steps session = past ++ turn :: future →
      inv (done ++ (past ++ [turn])) turn.after) ∧
      inv (done ++ turns index steps session) (runSteps index steps session).2.1 := by
  -- The turns that are done grow by one with every step of the replay.
  induction steps generalizing index session done with
  | nil => exact ⟨by simp [turns], by simpa [turns, runSteps] using start⟩
  | cons step rest ih =>
    unfold turns runSteps
    cases ran : runStep index step session with
    -- Without the turn, the replay ends in the session that it began with.
    | error stop => exact ⟨by simp, by simpa using start⟩
    | ok result =>
      let first : Turn :=
        { step, before := session, report := result.1, after := result.2.logStep result.1 }
      have kept : inv (done ++ [first]) first.after :=
        keeps done first ⟨index, result.2, ran, rfl⟩ start
      obtain ⟨later, last⟩ := ih (index + 1) kept
      refine ⟨fun past turn future split => ?_, by simpa using last⟩
      cases past with
      | nil =>
        obtain ⟨rfl, rfl⟩ := List.cons.inj split
        exact kept
      | cons other past =>
        obtain ⟨rfl, others⟩ := List.cons.inj split
        simpa using later past turn future others

/-- What a completed replay tells of the session that its last step left. -/
structure Outcome.Completed (outcome : Outcome) (report : Report) (steps : List StepReport)
    (last : Session) : Prop where
  steps : report.steps = steps
  entities : report.entities = last.entities.toList
  items : report.items = last.items.toList
  snapshot : report.host = last.context.host.snapshot
  host : outcome.context.host = last.context.host
  engine : outcome.engine = last.engine

/-- A replay that completes stops nowhere, and reports the session in which it ends. -/
theorem replay_completed {scenario : Scenario} {engine : Engine SimulatedHost}
    {context : Context SimulatedHost} {report : Report}
    (completed : (replay scenario engine context).result = .ok report) :
    let ended := runSteps 0 scenario.steps (.start engine context scenario.world)
    ended.2.2 = none ∧ (replay scenario engine context).Completed report ended.1 ended.2.1 := by
  unfold replay at completed ⊢
  dsimp only at completed ⊢
  cases stopped : (runSteps 0 scenario.steps (.start engine context scenario.world)).2.2 with
  | some stop => simp [stopped] at completed
  | none =>
    simp only [stopped, Except.ok.injEq] at completed ⊢
    -- Taking the journal out leaves the host as it is.
    subst completed
    exact ⟨trivial, rfl, rfl, rfl, rfl, rfl, rfl⟩

/-- A replay completes if no step stops it. -/
theorem replay_completes {scenario : Scenario} {engine : Engine SimulatedHost}
    {context : Context SimulatedHost}
    (goes : (runSteps 0 scenario.steps (.start engine context scenario.world)).2.2 = none) :
    ∃ report, (replay scenario engine context).result = .ok report := by
  unfold replay
  -- The report is made of whatever the last step left.
  simp only [goes]
  exact ⟨_, rfl⟩

end DungeonHooks.Replay
