import DungeonHooks.Proofs.Checked.Machine
import DungeonHooks.Proofs.Checked.Moves
import DungeonHooks.Proofs.Engine.Program
import DungeonHooks.Proofs.Menu.Returns
import DungeonHooks.Proofs.Replay.Steps
import DungeonHooks.Script.Load

/-! Replays with checked operations: no scenario stops at one of them. -/

namespace DungeonHooks

namespace Replay

/-- The session with checked menus in its engine. -/
def Session.guarded (session : Session) : Session :=
  { session with engine := { session.engine with menus := session.engine.menus.guarded } }

end Replay

open Replay

namespace Checked

/-- Counts a frame up. As far as the limit, which is a word, the count is one. -/
def countFrame (step : MenuVisit) (frame : Nat) : Except Halt Nat :=
  if frame < step.frameLimit then .ok (frame + 1) else .error ⟨"attempt to add with overflow"⟩

/-- Polls a started menu every frame until it finishes or the frames that it may take are over. -/
def pollMenu (step : MenuVisit) (report : StepReport) (session : Session) :
    Nat → Except Halt (StepReport × Session)
  | 0 => .ok (report.running step, session)
  | left + 1 =>
    let (answer, engine, cx) := session.engine.stepMenu step.menu session.context
    match answer with
    | .error halt => .error halt
    | .ok polled =>
      if polled.finished then
        match countFrame step (step.frameLimit - (left + 1)) with
        | .error halt => .error halt
        | .ok frames =>
          .ok (report.finished polled.returnValue frames, { session with engine, context := cx })
      else
        let cx := { cx with host := cx.host.advanceFrame }
        pollMenu step report { session with engine, context := cx } left

/-- Replays a menu: queues the player's input, starts the menu and polls it. -/
def runMenu (step : MenuVisit) (report : StepReport) (session : Session) :
    Except Halt (StepReport × Session) :=
  let cx := session.context
  let cx := { cx with host := cx.host.queueInput step.input }
  let (answer, engine, cx) := session.engine.startMenu step.menu cx
  let session := { session with engine, context := cx }
  match answer with
  | .error halt => .error halt
  | .ok (.error error) => .ok ({ report with error := some error.message }, session)
  | .ok (.ok ()) => pollMenu step report session step.frameLimit

/-- Replays one step. Only moves and menus have operations of their own that may fail. -/
def runStep (index : Nat) (step : Step) (session : Session) : Except Stop (StepReport × Session) :=
  let report : StepReport := { index, kind := step.kind }
  match step with
  | .useMove step =>
    match session.pair step.user step.target with
    | .ok pair => (runMove step report pair session).mapError .halted
    | .error cause => .error (.misnamed index cause)
  | .menu step => (runMenu step report session).mapError .halted
  | step => Replay.runStep index step session

/-- Replays steps from an index on, as far as none fails. -/
def runSteps : Nat → List Step → Session → List StepReport × Session × Option Stop
  | _, [], session => ([], session, none)
  | index, step :: rest, session =>
    match runStep index step session with
    | .error stop => ([], session, some stop)
    | .ok (report, session) =>
      let (reports, session, stop) := runSteps (index + 1) rest (session.logStep report)
      (report :: reports, session, stop)

/-- The bytes of a variable before the first zero, as a slice of them. -/
def textBytes (bytes : List UInt8) : Except Halt (List UInt8) :=
  front bytes (bytes.findIdx (· == 0))

/-- A variable with the text that its bytes hold. -/
def textVariable (entry : ScriptVariable × List UInt8) :
    Except Halt (ScriptVariable × String) := do
  let bytes ← textBytes entry.2
  return (entry.1, Text.decodeLossy bytes)

/-- The state of a host that is reported. -/
def snapshot (host : SimulatedHost) : Except Halt Snapshot := do
  let textVariables ← host.byteVariables.toList.mapM textVariable
  return { host.snapshot with textVariables }

/-- What came of steps: a report, if the host can be reported, or the reason for stopping. -/
def conclude (scenario : Scenario) : List StepReport × Session × Option Stop → Outcome
  | (_, session, some stop) =>
    { result := .error stop, context := session.context, engine := session.engine }
  | (steps, session, none) =>
    match snapshot session.context.host with
    | .error halt =>
      { result := .error (.halted halt), context := session.context, engine := session.engine }
    | .ok host =>
      let (journal, emptied) := session.context.journal.take
      { result := .ok
          { scenario := scenario.name
            resolvers := session.engine.effects.names
            hooks := HookPoint.installed
            steps
            entities := session.entities.toList
            items := session.items.toList
            host
            journal }
        context := { session.context with journal := emptied }
        engine := session.engine }

/-- The session in which the run of a scenario begins. -/
def opening (scenario : Scenario) (engine : Engine SimulatedHost) : Session :=
  .start engine { host := scenario.world.host, journal := engine.journal } scenario.world

/-- Runs a scenario on the host of its own world, with checked menus. -/
def run (scenario : Scenario) (engine : Engine SimulatedHost) : Outcome :=
  conclude scenario (runSteps 0 scenario.steps (opening scenario engine).guarded)

/-- The text before the first zero ends within the bytes. -/
theorem textBytes_eq (bytes : List UInt8) : textBytes bytes = .ok (bytes.takeWhile (· != 0)) := by
  -- Without a zero, the slice ends where the bytes do.
  rw [textBytes, front_eq List.findIdx_le_length, List.takeWhile_eq_take_findIdx_not]
  simp only [bne, Bool.not_not]

/-- So every host can be reported. -/
theorem snapshot_eq (host : SimulatedHost) : snapshot host = .ok host.snapshot := by
  have texts : textVariable = fun entry => pure (entry.1, textOfBytes entry.2) := by
    funext entry
    rw [textVariable, textBytes_eq]
    rfl
  rw [snapshot, texts, List.mapM_pure]
  rfl

/-- The session is sheltered, and its handlers talk and leave as many moves. -/
structure Prepared (first : Int32) (session : Session) : Prop where
  sheltered : Sheltered first session.engine.menus session.context
  talks : session.engine.Talks fun _ => True
  keeps : session.engine.KeepsMoves

/-- A part of a replay leaves the session prepared, takes back no handles, and goes as with checks if there are handles enough. -/
structure Proceeds (first : Int32) {κ : Type} (session : Session) (result : StepReport × Session)
    (checked : Except κ (StepReport × Session)) : Prop where
  prepared : Prepared first result.2
  handles : session.context.host.nextWindow ≤ result.2.context.host.nextWindow
  same : result.2.context.host.HasHandles → checked = .ok (result.1, result.2.guarded)

section

variable {first : Int32} {session : Session} {step : MenuVisit}

/-- The built-in menus return. -/
theorem Prepared.returns (prepared : Prepared first session) : session.engine.menus.Returns := by
  unfold MenuMachine.Returns
  rw [prepared.sheltered.table]
  exact MenuMachine.builtin_returns first

/-- A menu call that leaves the menus sheltered leaves the session prepared. -/
theorem Prepared.menuCall {machine : MenuMachine SimulatedHost} {cx : Context SimulatedHost}
    (prepared : Prepared first session) (sheltered : Sheltered first machine cx) :
    Prepared first
      { session with engine := { session.engine with menus := machine }, context := cx } where
  sheltered := sheltered
  talks := ⟨prepared.talks.effects, prepared.talks.instructions⟩
  keeps := prepared.keeps

/-- A frame of input leaves the session prepared. -/
theorem Prepared.nextFrame (prepared : Prepared first session) :
    Prepared first session.nextFrame where
  sheltered := ⟨prepared.sheltered.table, prepared.sheltered.tame.advanceFrame,
    prepared.sheltered.roomy⟩
  talks := prepared.talks
  keeps := prepared.keeps

/-- The number of a frame is no more than the limit. -/
theorem countFrame_eq {left : Nat} (inside : left < step.frameLimit) :
    countFrame step (step.frameLimit - (left + 1)) = .ok (step.frameLimit - left) := by
  rw [countFrame, if_pos (by omega)]
  congr 1
  omega

/-- With checks, a menu is polled as without them if the poll of the machine is. -/
theorem pollMenu_guarded {answer : MenuStep} (report : StepReport) {left : Nat}
    (inside : left < step.frameLimit)
    (polls : (session.engine.menus.step step.menu session.context).answer = .ok answer)
    (same : session.engine.menus.guarded.step step.menu session.context =
      (session.engine.menus.step step.menu session.context).guarded) :
    pollMenu step report session.guarded (left + 1) =
      if answer.finished then
        .ok (report.finished answer.returnValue (step.frameLimit - left),
          (session.polled step.menu).guarded)
      else pollMenu step report (session.polled step.menu).nextFrame.guarded left := by
  simp only [pollMenu, Engine.stepMenu, Engine.menuCall, Session.guarded, same, MenuReply.guarded,
    polls, countFrame_eq inside]
  rfl

/-- Polling a menu proceeds, whether it finishes or not. -/
theorem pollMenu_proceeds (prepared : Prepared first session) (report : StepReport) {left : Nat}
    (inside : left ≤ step.frameLimit) :
    ∃ result, Replay.pollMenu step report session left = .ok result ∧
      Proceeds first session result (pollMenu step report session.guarded left) := by
  induction left generalizing session with
  | zero => exact ⟨_, rfl, prepared, Nat.le_refl _, fun _ => rfl⟩
  | succ left ih =>
    have guarded := prepared.sheltered.step step.menu
    obtain ⟨answer, polls⟩ := MenuMachine.step_answers prepared.returns step.menu session.context
    have polled : Prepared first (session.polled step.menu) := prepared.menuCall guarded.sheltered
    rw [pollMenu_succ report left polls]
    split
    case isTrue finished =>
      refine ⟨_, rfl, polled, guarded.handles, fun enough => ?_⟩
      rw [pollMenu_guarded report inside polls (guarded.same enough), if_pos finished]
    case isFalse going =>
      -- The later polls go on from the session that this one left.
      obtain ⟨result, ran, later⟩ := ih polled.nextFrame (Nat.le_of_succ_le inside)
      have handles := later.handles
      rw [Session.nextFrame, SimulatedHost.nextWindow_advanceFrame] at handles
      refine ⟨result, ran, later.prepared, Nat.le_trans guarded.handles handles,
        fun enough => ?_⟩
      have here := guarded.same (Nat.lt_of_le_of_lt handles enough)
      rw [pollMenu_guarded report inside polls here, if_neg going]
      exact later.same enough

/-- With checks, a menu is started as without them if the machine starts it so. -/
theorem runMenu_guarded {answer : Except OutOfRange Unit} (report : StepReport)
    (starts : (session.starting step).answer = .ok answer)
    (same : session.engine.menus.guarded.start step.menu
      { session.context with host := session.context.host.queueInput step.input } =
        (session.starting step).guarded) :
    runMenu step report session.guarded = match answer with
      | .error error =>
        .ok ({ report with error := some error.message }, (session.started step).guarded)
      | .ok () => pollMenu step report (session.started step).guarded step.frameLimit := by
  simp only [runMenu, Engine.startMenu, Engine.menuCall, Session.guarded, same, MenuReply.guarded,
    starts]
  cases answer <;> rfl

/-- A menu step proceeds if its input is modest. -/
theorem runMenu_proceeds (prepared : Prepared first session) (report : StepReport)
    (modest : step.input.Modest) :
    ∃ result, Replay.runMenu step report session = .ok result ∧
      Proceeds first session result (runMenu step report session.guarded) := by
  have queued : Sheltered first session.engine.menus
      { session.context with host := session.context.host.queueInput step.input } :=
    ⟨prepared.sheltered.table, prepared.sheltered.tame.queueInput modest, prepared.sheltered.roomy⟩
  have guarded := queued.start step.menu
  have started : Prepared first (session.started step) := prepared.menuCall guarded.sheltered
  obtain ⟨answer, starts⟩ : ∃ answer, (session.starting step).answer = .ok answer :=
    MenuMachine.start_answers prepared.returns step.menu _
  rw [runMenu_eq, starts]
  cases answer with
  | error error =>
    refine ⟨_, rfl, started, guarded.handles, fun enough => ?_⟩
    rw [runMenu_guarded report starts (guarded.same enough)]
  | ok _ =>
    obtain ⟨result, ran, later⟩ := pollMenu_proceeds started report (Nat.le_refl step.frameLimit)
    refine ⟨result, ran, later.prepared, Nat.le_trans guarded.handles later.handles,
      fun enough => ?_⟩
    have here := guarded.same (Nat.lt_of_le_of_lt later.handles enough)
    rw [runMenu_guarded report starts here]
    exact later.same enough

end

section

variable {first : Int32} {session : Session} {step : Step} {index : Nat}

/-- A step that is no menu leaves the resolvers as they are, but for what they remember. -/
theorem runStep_keepsMoves {result : StepReport × Session} (other : step.isMenu = false)
    (ran : Replay.runStep index step session = .ok result) (keeps : session.engine.KeepsMoves) :
    result.2.engine.KeepsMoves := by
  cases step with
  | opcode step =>
    cases ran
    exact keeps
  | useItem step =>
    obtain ⟨use, -, rfl⟩ := runStep_useItem ran
    exact keeps.itemEffect step.thrown session.context use
  | useMove step =>
    obtain ⟨pair, -, rfl⟩ := runStep_useMove ran
    exact keeps.moveEffect session.context (step.use pair)
  | specialProcess call =>
    cases ran
    exact keeps.handleSpecialProcess session.context call
  | menu step => cases other

/-- A step that is no menu proceeds if it goes alike with checked menus. -/
theorem Proceeds.of_other {result : StepReport × Session} (prepared : Prepared first session)
    (other : step.isMenu = false) (ran : Replay.runStep index step session = .ok result)
    (same : runStep index step session.guarded = .ok (result.1, result.2.guarded)) :
    Proceeds first session result (runStep index step session.guarded) := by
  have continues : Continues (fun _ => True) _ _ := runStep_continues other ran
  have wide : Wide fun _ => True := fun _ _ => trivial
  have tame := runStep_keeps wide Tame.kept other prepared.talks ran prepared.sheltered.tame
  refine ⟨⟨?_, continues.talks prepared.talks, runStep_keepsMoves other ran prepared.keeps⟩, ?_,
    fun _ => same⟩
  · rw [continues.menus]
    exact ⟨prepared.sheltered.table, tame, prepared.sheltered.roomy⟩
  · exact runStep_keeps wide Talk.keptHandles other prepared.talks ran

/-- A step proceeds, unless it names something wrong, and then it does so with checks as well. -/
theorem runStep_proceeds (prepared : Prepared first session) (index : Nat)
    (modest : ∀ visit, step = .menu visit → visit.input.Modest) :
    (∃ cause, Replay.runStep index step session = .error (.misnamed index cause) ∧
        runStep index step session.guarded = .error (.misnamed index cause)) ∨
      ∃ result, Replay.runStep index step session = .ok result ∧
        Proceeds first session result (runStep index step session.guarded) := by
  cases step with
  | opcode step => exact .inr ⟨_, rfl, .of_other prepared rfl rfl rfl⟩
  | useItem step =>
    -- Names are looked up in the session, whatever the menus.
    have alike : session.guarded.itemUse step = session.itemUse step := rfl
    cases found : session.itemUse step with
    | error cause =>
      rw [found] at alike
      exact .inl ⟨cause, by simp only [Replay.runStep, found],
        by simp only [runStep, Replay.runStep, alike]⟩
    | ok use =>
      rw [found] at alike
      have ran : Replay.runStep index (.useItem step) session =
          .ok (runItem step { index, kind := "use_item" } use session) := by
        simp only [Replay.runStep, found, Step.kind]
      refine .inr ⟨_, ran, .of_other prepared rfl ran ?_⟩
      simp only [runStep, Replay.runStep, alike]
      rfl
  | useMove step =>
    have alike : session.guarded.pair step.user step.target = session.pair step.user step.target :=
      rfl
    cases found : session.pair step.user step.target with
    | error cause =>
      rw [found] at alike
      exact .inl ⟨cause, by simp only [Replay.runStep, found], by simp only [runStep, alike]⟩
    | ok pair =>
      rw [found] at alike
      have ran : Replay.runStep index (.useMove step) session =
          .ok (Replay.runMove step { index, kind := "use_move" } pair session) := by
        simp only [Replay.runStep, found, Step.kind]
      refine .inr ⟨_, ran, .of_other prepared rfl ran ?_⟩
      have keeps : session.guarded.engine.KeepsMoves := prepared.keeps
      simp only [runStep, alike, runMove_eq step _ pair keeps]
      rfl
  | specialProcess call =>
    refine .inr ⟨_, rfl, .of_other prepared rfl rfl ?_⟩
    show Except.ok (runProcess call _ session.guarded) = _
    unfold runProcess Engine.handleSpecialProcess
    simp only [Session.guarded]
    cases session.engine.settings.routeProcess call.id <;> rfl
  | menu step =>
    obtain ⟨result, ran, proceeds⟩ := runMenu_proceeds prepared { index, kind := "menu" }
      (modest step rfl)
    refine .inr ⟨result, runStep_menu.mpr ran, proceeds.prepared, proceeds.handles,
      fun enough => ?_⟩
    show (runMenu step { index, kind := "menu" } session.guarded).mapError Stop.halted = _
    rw [proceeds.same enough]
    rfl

/-- What steps come to is the same with checked operations, if there are handles enough, and no halt is a part of it. -/
structure Completes (session : Session) (plain checked : List StepReport × Session × Option Stop) :
    Prop where
  handles : session.context.host.nextWindow ≤ plain.2.1.context.host.nextWindow
  unhalted : ∀ halt, plain.2.2 ≠ some (.halted halt)
  same : plain.2.1.context.host.HasHandles → checked = (plain.1, plain.2.1.guarded, plain.2.2)

/-- That a step is over is only logged. -/
theorem Prepared.logStep (prepared : Prepared first session) (report : StepReport) :
    Prepared first (session.logStep report) where
  sheltered := ⟨prepared.sheltered.table, prepared.sheltered.tame.same rfl rfl,
    prepared.sheltered.roomy⟩
  talks := prepared.talks
  keeps := prepared.keeps

/-- Steps with modest input complete. -/
theorem runSteps_completes (prepared : Prepared first session) (index : Nat) {steps : List Step}
    (modest : ∀ visit, .menu visit ∈ steps → visit.input.Modest) :
    Completes session (Replay.runSteps index steps session)
      (runSteps index steps session.guarded) := by
  induction steps generalizing index session with
  | nil => exact ⟨Nat.le_refl _, nofun, fun _ => rfl⟩
  | cons step rest ih =>
    unfold Replay.runSteps runSteps
    have first : ∀ visit, step = .menu visit → visit.input.Modest :=
      fun visit here => modest visit (List.mem_cons.mpr (.inl here.symm))
    rcases runStep_proceeds prepared index first with
      ⟨cause, stops, alike⟩ | ⟨⟨report, after⟩, ran, proceeds⟩
    · rw [stops, alike]
      exact ⟨Nat.le_refl _, by simp, fun _ => rfl⟩
    · have later := ih (proceeds.prepared.logStep report) (index + 1)
        fun visit member => modest visit (List.mem_cons_of_mem _ member)
      rw [ran]
      -- Handles are never taken back, so what is enough in the end was enough at every step.
      refine ⟨Nat.le_trans proceeds.handles later.handles, later.unhalted, fun enough => ?_⟩
      have here := proceeds.same (Nat.lt_of_le_of_lt later.handles enough)
      rw [here]
      dsimp only
      rw [show after.guarded.logStep report = (after.logStep report).guarded from rfl,
        later.same enough]

end

/-- Without checked operations, the conclusion is what the run comes to. -/
theorem conclude_eq (scenario : Scenario) (engine : Engine SimulatedHost) :
    conclude scenario (Replay.runSteps 0 scenario.steps (opening scenario engine)) =
      Replay.run scenario engine := by
  unfold Replay.run Replay.replay
  rw [opening]
  obtain ⟨reports, session, stop⟩ := Replay.runSteps 0 scenario.steps _
  cases stop with
  | some stop => rfl
  | none => rw [conclude, snapshot_eq]

/-- The menus are no part of what is concluded, and neither is a halt unless there was one. -/
theorem conclude_guarded (scenario : Scenario) (reports : List StepReport) (session : Session)
    (stop : Option Stop) :
    let guarded := conclude scenario (reports, session.guarded, stop)
    let plain := conclude scenario (reports, session, stop)
    guarded.result = plain.result ∧ guarded.context = plain.context ∧
      plain.context.host = session.context.host ∧
      ∀ halt, plain.result = .error (.halted halt) → stop = some (.halted halt) := by
  cases stop with
  | some stop => exact ⟨rfl, rfl, rfl, fun halt halted => congrArg some (Except.error.inj halted)⟩
  | none =>
    have alike : snapshot session.guarded.context.host = .ok session.context.host.snapshot :=
      snapshot_eq _
    rw [conclude, alike, conclude, snapshot_eq]
    exact ⟨rfl, rfl, rfl, nofun⟩

/-- A run with checked operations is the run without them, and comes to its end or to a name that is wrong. No draw fails either, whoever makes it. -/
structure NeverPanics (scenario : Scenario) (engine : Engine SimulatedHost) : Prop where
  result : (run scenario engine).result = (Replay.run scenario engine).result
  context : (run scenario engine).context = (Replay.run scenario engine).context
  unhalted : ∀ halt, (run scenario engine).result ≠ .error (.halted halt)
  draws : ∀ low high (host : SimulatedHost), host.drawChecked low high = .ok (host.draw low high)

/-- Steps that complete make a run that never panics. -/
theorem Completes.neverPanics {scenario : Scenario} {engine : Engine SimulatedHost}
    (completes : Completes (opening scenario engine)
      (Replay.runSteps 0 scenario.steps (opening scenario engine))
      (runSteps 0 scenario.steps (opening scenario engine).guarded))
    (windows : (Replay.run scenario engine).context.host.HasHandles) :
    NeverPanics scenario engine := by
  rw [← conclude_eq] at windows
  obtain ⟨-, unhalted, same⟩ := completes
  have plain := conclude_eq scenario engine
  generalize Replay.runSteps 0 scenario.steps (opening scenario engine) = ran at *
  obtain ⟨reports, session, stop⟩ := ran
  -- The host that is concluded with is the one whose handles were counted.
  obtain ⟨result, context, host, halts⟩ := conclude_guarded scenario reports session stop
  have checked : run scenario engine = conclude scenario (reports, session.guarded, stop) := by
    rw [run, same (host ▸ windows)]
  rw [← checked, plain] at result context
  refine ⟨result, context, fun halt halted => ?_, SimulatedHost.drawChecked_eq⟩
  refine unhalted halt (halts halt ?_)
  rw [plain, ← result, halted]

/-- The last option is picked, whose second form has the last number there is, and names are cut between characters. -/
def extreme : Scenario where
  name := "extreme"
  world :=
    { entities := Std.TreeMap.ofList [("hero", tired), ("foe", rested)]
      dualGender := [lastOption + 1]
      monsterNames := Std.TreeMap.ofList [(Int32.maxValue, "Miraidon élancé")] }
  steps :=
    [.menu
        { menu := 80
          input :=
            { advanced := [{ hover := [lastOption], result := lastOption }], simple := [2] } },
      .menu { menu := 82, input := { keyboard := ["Grußformel"] } },
      .useMove refill]

/-- The script that refills moves, if it can be loaded. -/
def refillers : List Script :=
  (Script.load "refill" refillScript).toOption.toList

/-- An option behind the last one is picked. -/
def beyond : Scenario where
  name := "beyond"
  steps := [.menu { menu := 80, input := { advanced := [{ result := lastOption + 1 }] } }]

/-- Behind the last option there is no room for a second form. -/
example :
    (run beyond (.new {})).result = .error (.halted ⟨"attempt to add with overflow"⟩) := by
  decide +kernel

end Checked

end DungeonHooks
