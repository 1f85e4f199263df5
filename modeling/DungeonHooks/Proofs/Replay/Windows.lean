import DungeonHooks.Proofs.Engine.Program
import DungeonHooks.Proofs.Replay.MenuWindows

/-! In every replay, the open windows are those of the running menu and those that menus left behind. -/

namespace DungeonHooks.Replay

/-- The windows are accounted for, and a machine at rest holds none; before the first menu, none is open at all. -/
def InOrder (left : Nat) (state : MenuState) (host : SimulatedHost) : Prop :=
  -- The slots tell nothing before the first menu, since they may hold anything.
  (Accounted left state.windows host ∧ (state.activeMenu = none → slotPanes state.windows = [])) ∨
    (left = 0 ∧ host.panes = [])

/-- A host without windows holds none in any slots. -/
theorem held_of_no_panes {slots : WindowSlots} {host : SimulatedHost} (closed : host.panes = []) :
    held slots host = 0 := by
  -- No handle is known to a host without windows.
  refine List.countP_eq_zero.mpr fun slot _ => ?_
  have unknown (window : WindowId) : (host.anyWindow? window).isSome = false := by
    rw [host.anyWindow?_isSome, closed]
    rfl
  simp [unknown]

namespace InOrder

variable {left : Nat} {state : MenuState} {host other : SimulatedHost}

/-- It takes no more than that the same windows are open. -/
theorem same (order : InOrder left state host) (same : host.SameWindows other) :
    InOrder left state other := by
  rcases order with ⟨accounted, idle⟩ | ⟨none, closed⟩
  · exact .inl ⟨accounted.same same, idle⟩
  · exact .inr ⟨none, same.1 ▸ closed⟩

/-- As many windows are open as are held or were left behind. -/
theorem openWindows_eq (order : InOrder left state host) (fits : host.nextWindow ≤ UInt32.size) :
    host.openWindows = held state.windows host + left := by
  -- In either case, what is not held was left behind.
  rcases order with ⟨accounted, _⟩ | ⟨none, closed⟩
  · exact (accounted fits).openWindows_eq
  · rw [host.openWindows_eq, held_of_no_panes closed, closed, none]
    rfl

/-- A machine at rest holds no window. -/
theorem held_eq_zero (order : InOrder left state host) (fits : host.nextWindow ≤ UInt32.size)
    (idle : state.activeMenu = none) : held state.windows host = 0 := by
  -- In either case, the slots hold no window that is open.
  rcases order with ⟨accounted, empties⟩ | ⟨_, closed⟩
  · rw [(accounted fits).held_eq, empties idle]
    rfl
  · exact held_of_no_panes closed

/-- Slots that are emptied without closing leave their windows behind. -/
theorem abandon (order : InOrder left state host) :
    Accounted (left + held state.windows host) {} host := by
  intro fits
  rcases order with ⟨accounted, _⟩ | ⟨none, closed⟩
  · exact (accounted fits).abandon
  · rw [held_of_no_panes closed, none]
    -- Nothing is open, so there is nothing to be told of any window.
    exact ⟨by simp [closed], by simp [closed], ⟨[], rfl, by simp [closed, slotPanes_empty]⟩,
      fun slot _ => WindowSlots.get_empty slot⟩

end InOrder

section Menus

variable {menu : TalkingMenu} {between : Nat → MenuState → SimulatedHost → Prop}

/-- A poll keeps the windows of a running menu accounted for, and leaves none in its slots at the end. -/
theorem step_between (accounts : AccountsFor menu between) {machine : MenuMachine SimulatedHost}
    {id : Int32} {left : Nat} {cx : Context SimulatedHost} (running : machine.Running menu id)
    (holds : between left machine.state cx.host) :
    ∃ polled, (machine.step id cx).answer = .ok polled ∧
      if polled.finished then
        InOrder left (machine.step id cx).machine.state (machine.step id cx).context.host
      else (machine.step id cx).machine.Running menu id ∧
        between left (machine.step id cx).machine.state (machine.step id cx).context.host := by
  -- A poll is the frame of the menu, and the mark of the session around it.
  obtain ⟨answer, after, host⟩ := MenuMachine.step_running running cx
  have frame := accounts.frame left id machine.state cx holds
  have steady := (accounts.steady.frame id machine.state).hold cx
  refine ⟨_, answer, ?_⟩
  rw [after, host]
  cases ended : ((menu.frame id machine.state).hold cx).value.1 with
  | true =>
    simp only [ended, if_true] at frame ⊢
    exact .inl ⟨frame.2, fun _ => frame.1⟩
  | false =>
    simp only [ended] at frame ⊢
    exact ⟨⟨running.known, steady.trans running.active⟩, frame⟩

/-- However long a menu is polled, its windows stay accounted for. -/
theorem pollMenu_inOrder (accounts : AccountsFor menu between) {step : MenuVisit}
    {report : StepReport} {left frames : Nat} {session : Session} {result : StepReport × Session}
    (running : session.engine.menus.Running menu step.menu)
    (holds : between left session.engine.menus.state session.context.host)
    (ran : pollMenu step report session frames = .ok result) :
    InOrder left result.2.engine.menus.state result.2.context.host := by
  induction frames generalizing session with
  | zero =>
    -- The frames are over, and the menu goes on running.
    obtain rfl := Except.ok.inj ran
    refine .inl ⟨accounts.accounted holds, fun idle => ?_⟩
    rw [running.active] at idle
    contradiction
  | succ frames ih =>
    obtain ⟨polled, answer, kept⟩ := step_between accounts running holds
    rw [pollMenu_succ report frames answer] at ran
    cases ended : polled.finished with
    | true =>
      rw [ended, if_pos rfl] at ran kept
      obtain rfl := Except.ok.inj ran
      exact kept
    | false =>
      rw [ended, if_neg Bool.false_ne_true] at ran kept
      obtain ⟨running, holds⟩ := kept
      -- A frame of input comes between two polls.
      exact ih running (accounts.same holds (SimulatedHost.advanceFrame_same _)) ran

end Menus

/-- The windows that a menu leaves behind when it starts: those of the session that it replaces. -/
def MenuVisit.leaves (step : MenuVisit) (session : Session) : Nat :=
  if (session.engine.menus.descriptor? step.menu).isSome then
    held session.engine.menus.state.windows session.context.host
  else 0

/-- A menu step keeps the windows accounted for, those that it leaves behind included. -/
theorem runMenu_inOrder {first : Int32} {step : MenuVisit} {report : StepReport} {left : Nat}
    {session : Session} {result : StepReport × Session}
    (builtin : session.engine.menus.table = (MenuMachine.builtin first).table)
    (order : InOrder left session.engine.menus.state session.context.host)
    (ran : runMenu step report session = .ok result) :
    InOrder (left + step.leaves session) result.2.engine.menus.state result.2.context.host := by
  -- Queued input opens no window.
  let queued : Context SimulatedHost :=
    { session.context with host := session.context.host.queueInput step.input }
  have order : InOrder left session.engine.menus.state queued.host := order.same ⟨rfl, rfl⟩
  cases found : session.engine.menus.table.lookup step.menu with
  | error error =>
    obtain ⟨answer, machine, host⟩ := MenuMachine.start_unknown found queued
    have leaves : step.leaves session = 0 := by
      rw [MenuVisit.leaves, MenuMachine.descriptor?, HandlerTable.lookup_eq_error_iff.mp ⟨_, found⟩]
      rfl
    rcases runMenu_cases ran with ⟨_, _, rfl⟩ | ⟨started, _⟩
    · -- The input was queued all the same, but it opens and closes nothing.
      rw [leaves, show (session.started step).engine.menus = _ from machine,
        show (session.started step).context.host = _ from host]
      exact order
    · rw [Session.starting, answer] at started
      cases started
  | ok descriptor =>
    obtain ⟨menu, between, runs, accounts⟩ := builtin_accountsFor
      (builtin ▸ HandlerTable.mem_of_get found)
    obtain ⟨before, host, answer, machine, context⟩ := MenuMachine.start_machine found runs queued
    have record := HandlerTable.lookup_eq_ok_iff.mp found
    have leaves : step.leaves session = held session.engine.menus.state.windows queued.host := by
      rw [MenuVisit.leaves, MenuMachine.descriptor?, record]
      rfl
    -- The slots are emptied by the start, which leaves their windows behind.
    have fresh : Accounted (left + step.leaves session) {} before.host := by
      rw [leaves, host]
      exact order.abandon
    have holds := accounts.create _ step.menu before fresh
    have active := (accounts.steady.create step.menu { activeMenu := some step.menu }).hold before
    rcases runMenu_cases ran with ⟨error, rejected, _⟩ | ⟨_, polled⟩
    · rw [Session.starting, answer] at rejected
      cases rejected
    · have menus : (session.started step).engine.menus = _ := machine
      have running : (session.started step).engine.menus.Running menu step.menu := by
        rw [menus]
        exact ⟨⟨descriptor, record, runs⟩, active⟩
      refine pollMenu_inOrder accounts running ?_ polled
      rw [menus, show (session.started step).context = _ from context]
      exact holds

/-- The windows that a turn leaves behind; only menus leave any. -/
def Turn.leaves (turn : Turn) : Nat :=
  match turn.step with
  | .menu visit => visit.leaves turn.before
  | _ => 0

/-- The windows that the turns of a history left behind. -/
def leftBehind (history : List Turn) : Nat :=
  history.foldl (fun left turn => left + turn.leaves) 0

/-- The menus are the built-in ones, handlers open and close no windows, and the windows are in order. -/
structure Orderly (first : Int32) (left : Nat) (session : Session) : Prop where
  builtin : session.engine.menus.table = (MenuMachine.builtin first).table
  talks : session.engine.Talks fun request => request.windowless = true
  order : InOrder left session.engine.menus.state session.context.host

/-- A step that is no menu leaves the windows as they are. -/
theorem runStep_sameWindows {index : Nat} {step : Step} {session : Session}
    {result : StepReport × Session} (other : step.isMenu = false)
    (talks : session.engine.Talks fun request => request.windowless = true)
    (ran : runStep index step session = .ok result) :
    session.context.host.SameWindows result.2.context.host :=
  -- Handlers reach the host by requests that leave its windows alone.
  runStep_keeps (fun _ windowless => windowless) SimulatedHost.kept_sameWindows other talks ran

/-- A turn keeps a session orderly, with the windows that it leaves behind. -/
theorem Turn.Taken.orderly {turn : Turn} (taken : turn.Taken) {first : Int32} {left : Nat}
    (orderly : Orderly first left turn.before) : Orderly first (left + turn.leaves) turn.after := by
  obtain ⟨index, after, ran, logged⟩ := taken
  -- That the step is over is only logged.
  suffices Orderly first (left + turn.leaves) after by
    rw [logged]
    exact ⟨this.builtin, this.talks, this.order⟩
  cases kind : turn.step.isMenu with
  | false =>
    have continues : Continues (fun request => request.windowless = true) _ _ :=
      runStep_continues kind ran
    have none : turn.leaves = 0 := by
      unfold leaves
      cases step : turn.step <;> simp_all [Step.isMenu]
    refine ⟨?_, continues.talks orderly.talks, ?_⟩
    · rw [continues.menus, orderly.builtin]
    · rw [none, continues.menus]
      exact orderly.order.same (runStep_sameWindows kind orderly.talks ran)
  | true =>
    cases step : turn.step with
    | menu visit =>
      have leaves : turn.leaves = visit.leaves turn.before := by simp only [Turn.leaves, step]
      rw [step] at ran
      have ran := runStep_menu.mp ran
      obtain ⟨state, engine⟩ := runMenu_engine ran
      have order := runMenu_inOrder orderly.builtin orderly.order ran
      refine ⟨?_, ?_, leaves ▸ order⟩
      · rw [engine]
        exact orderly.builtin
      · rw [engine]
        exact ⟨orderly.talks.effects, orderly.talks.instructions⟩
    | _ => simp [step, Step.isMenu] at kind

/-- The windows that are open after some turns: those that the machine holds, and those that were left behind. -/
structure WindowsAccounted (history : List Turn) (state : MenuState) (host : SimulatedHost) :
    Prop where
  all : host.openWindows = held state.windows host + leftBehind history
  idle : state.activeMenu = none → host.openWindows = leftBehind history

/-- What is in order is accounted for, as long as the handles that were given out do not repeat. -/
theorem InOrder.windowsAccounted {history : List Turn} {state : MenuState} {host : SimulatedHost}
    (order : InOrder (leftBehind history) state host) (fits : host.nextWindow ≤ UInt32.size) :
    WindowsAccounted history state host where
  all := order.openWindows_eq fits
  idle idle := by rw [order.openWindows_eq fits, order.held_eq_zero fits idle, Nat.zero_add]

/-- In every replay with the built-in menus, on a host that begins without windows, the windows are accounted for after each turn, and at the end. -/
theorem windows_accounted {first : Int32} {engine : Engine SimulatedHost}
    {context : Context SimulatedHost}
    (builtin : engine.menus.table = (MenuMachine.builtin first).table)
    (talks : engine.Talks fun request => request.windowless = true)
    (closed : context.host.windows = []) (scenario : Scenario) :
    (∀ past turn future, scenario.turns engine context = past ++ turn :: future →
      turn.after.context.host.nextWindow ≤ UInt32.size →
      WindowsAccounted (past ++ [turn]) turn.after.engine.menus.state turn.after.context.host) ∧
    ∀ report, (replay scenario engine context).result = .ok report →
      (replay scenario engine context).context.host.nextWindow ≤ UInt32.size →
      report.host = (replay scenario engine context).context.host.snapshot ∧
        WindowsAccounted (scenario.turns engine context)
          (replay scenario engine context).engine.menus.state
          (replay scenario engine context).context.host := by
  let session : Session := .start engine context scenario.world
  have start : Orderly first (leftBehind []) session :=
    ⟨builtin, talks, .inr ⟨rfl, by simp [session, Session.start, SimulatedHost.panes, closed]⟩⟩
  -- The windows that are left behind add up over the turns.
  have keeps (past : List Turn) (turn : Turn) (taken : turn.Taken)
      (orderly : Orderly first (leftBehind past) turn.before) :
      Orderly first (leftBehind (past ++ [turn])) turn.after := by
    simpa [leftBehind] using taken.orderly orderly
  obtain ⟨each, last⟩ := @turns_invariant _ keeps 0 scenario.steps session [] start
  refine ⟨fun past turn future split fits => ?_, fun report completed fits => ?_⟩
  · exact (each past turn future split).order.windowsAccounted fits
  · -- The last session is the one that the replay reports.
    obtain ⟨_, told⟩ := replay_completed completed
    rw [told.host] at fits
    rw [told.host, told.engine]
    exact ⟨told.snapshot, last.order.windowsAccounted fits⟩

/-- A password menu is started while the recruit menu is still open. -/
def replaced : Scenario where
  name := "replaced"
  steps :=
    [.menu { menu := 80, frameLimit := 1 },
      .menu { menu := 81, input := { keyboard := ["shard"] } }]

/-- The two windows of the recruit menu are all that is left behind, and all that is open in the end. -/
theorem replaced_windows_accounted :
    let outcome := replay replaced (Engine.new {}) { host := replaced.world.host }
    WindowsAccounted (replaced.turns (Engine.new {}) { host := replaced.world.host })
        outcome.engine.menus.state outcome.context.host ∧
      outcome.context.host.openWindows = 2 := by
  intro outcome
  -- The run is evaluated only for the number of handles and for its end.
  have fits : outcome.context.host.nextWindow ≤ UInt32.size := by decide +kernel
  refine ⟨?_, by decide +kernel⟩
  cases completed : outcome.result with
  | error stop =>
    have finished : outcome.result.isOk = true := by decide +kernel
    rw [completed] at finished
    contradiction
  | ok report =>
    exact ((windows_accounted rfl (Engine.program_talks (fun _ windowless => windowless) {} [])
      rfl replaced).2 report completed fits).2

/-- The session of the password menu ends, and the windows of the recruit menu are still open. -/
theorem windows_outlive_replaced_session :
    ∃ turn ∈ replaced.turns (Engine.new {}) { host := replaced.world.host },
      turn.after.engine.menus.state.activeMenu = none ∧ turn.after.context.host.openWindows = 2 := by
  decide +kernel

end DungeonHooks.Replay
