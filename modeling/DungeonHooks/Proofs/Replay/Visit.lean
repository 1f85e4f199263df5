import DungeonHooks.Proofs.Menu.Session
import DungeonHooks.Proofs.Replay.Steps

/-! Visits to a menu, scene by scene: what the frames between two scenes come to, however many they are. -/

namespace DungeonHooks.Replay

/-- What a menu and its host show after a poll. -/
abbrev Scene := MenuState → SimulatedHost → Prop

/-- The scene as it is when input has arrived. -/
def Scene.arrived (scene : Scene) : Scene := fun state host =>
  ∃ shown, scene state shown ∧ host = shown.advanceFrame

/-- A poll leads from one scene to another, and the menu goes on. -/
def Polls (menu : TalkingMenu) (id : Int32) (before after : Scene) : Prop :=
  ∀ state, Talk.Leads (before state) (menu.frame id state) fun ended host =>
    ended.1 = false ∧ after ended.2 host

/-- A poll in a scene is the last one, and it ends with a value. -/
def Ends (menu : TalkingMenu) (id : Int32) (before : Scene)
    (after : Int32 → SimulatedHost → Prop) : Prop :=
  ∀ state, Talk.Leads (before state) (menu.frame id state) fun ended host =>
    ended.1 = true ∧ after ended.2.returnValue host

namespace Session

/-- The session a frame later: input arrives, and the menu is polled. -/
def later (session : Session) (id : Int32) : Session :=
  session.nextFrame.polled id

/-- The answer to a poll of the menu. -/
def answer (session : Session) (id : Int32) : Except Halt MenuStep :=
  (session.engine.menus.step id session.context).answer

/-- The session runs a menu and shows a scene of it. -/
structure Shows (session : Session) (menu : TalkingMenu) (id : Int32) (scene : Scene) : Prop where
  running : session.engine.menus.Running menu id
  scene : scene session.engine.menus.state session.context.host

section

variable {session : Session} {menu : TalkingMenu} {id : Int32} {before after : Scene}

/-- A menu that is started shows the scene that its first talk leads to. -/
theorem started_shows {visit : MenuVisit} {descriptor : MenuDescriptor SimulatedHost}
    (known : session.engine.menus.table.lookup visit.menu = .ok descriptor)
    (runs : descriptor.menu = menu.menu) (steady : menu.Steady)
    (opens : Talk.Leads (· = session.context.host.queueInput visit.input)
      (menu.create visit.menu { activeMenu := some visit.menu }) after) :
    (session.starting visit).answer = .ok (.ok ()) ∧
      (session.started visit).Shows menu visit.menu after := by
  -- The host is given the input of the visit before the menu is started.
  obtain ⟨before, host, answer, machine, context⟩ := MenuMachine.start_machine known runs
    { session.context with host := session.context.host.queueInput visit.input }
  have record := HandlerTable.lookup_eq_ok_iff.mp known
  refine ⟨answer, ?_⟩
  rw [Session.started, Session.starting, machine, context]
  exact ⟨⟨⟨descriptor, record, runs⟩, (steady.create visit.menu _).hold before⟩, opens before host⟩

/-- Input may arrive in any scene. -/
theorem Shows.nextFrame (shows : session.Shows menu id before) :
    session.nextFrame.Shows menu id before.arrived :=
  ⟨shows.running, session.context.host, shows.scene, rfl⟩

/-- A poll that leads on shows the next scene. -/
theorem Shows.polled (steady : menu.Steady) (polls : Polls menu id before after)
    (shows : session.Shows menu id before) :
    session.answer id = .ok .pending ∧ (session.polled id).Shows menu id after := by
  obtain ⟨answer, machine, host⟩ := MenuMachine.step_running shows.running session.context
  obtain ⟨going, scene⟩ := polls _ session.context shows.scene
  -- The frame does not end the session, so neither does the poll.
  rw [if_neg (by simp [going])] at answer machine
  have active := (steady.frame id session.engine.menus.state).hold session.context
  refine ⟨answer, ⟨?_, ?_⟩, ?_⟩
  · -- Polling keeps the table, so the menu is found again.
    rw [Session.polled, machine]
    exact shows.running.known
  · rw [Session.polled, machine]
    exact active.trans shows.running.active
  · rw [Session.polled, machine, host]
    exact scene

/-- The last poll answers with the value that the menu ends with. -/
theorem Shows.finished {closed : Int32 → SimulatedHost → Prop} (ends : Ends menu id before closed)
    (shows : session.Shows menu id before) :
    ∃ value, session.answer id = .ok (.done value) ∧
      closed value (session.polled id).context.host := by
  obtain ⟨answer, -, host⟩ := MenuMachine.step_running shows.running session.context
  obtain ⟨last, scene⟩ := ends _ session.context shows.scene
  rw [if_pos last] at answer
  exact ⟨_, answer, by rwa [Session.polled, host]⟩

end

end Session

/-- A number of frames after each of which the menu goes on; the host is calm before each of them. -/
inductive Frames (id : Int32) (calm : SimulatedHost → Prop) : Nat → Session → Session → Prop where
  | none (session : Session) : Frames id calm 0 session session
  | next {session last : Session} {count : Nat} (still : calm session.context.host)
      (goes : session.nextFrame.answer id = .ok .pending)
      (rest : Frames id calm count (session.later id) last) : Frames id calm (count + 1) session last

namespace Frames

variable {id : Int32} {calm : SimulatedHost → Prop} {count : Nat} {session last : Session}

/-- Frames follow on frames. -/
theorem trans {more : Nat} {other : Session} (frames : Frames id calm count session last)
    (others : Frames id calm more last other) : Frames id calm (count + more) session other := by
  induction frames with
  | none session => rwa [Nat.zero_add]
  | next still goes rest ih =>
    rw [Nat.succ_add]
    exact .next still goes (ih others)

variable {visit : MenuVisit}

/-- With frames enough, polling goes on from the last session. -/
theorem poll (frames : Frames visit.menu calm count session last) (report : StepReport)
    (left : Nat) : pollMenu visit report session.nextFrame (count + left) =
      pollMenu visit report last.nextFrame left := by
  -- Each frame is a poll that goes on with one frame less.
  induction frames with
  | none session => rw [Nat.zero_add]
  | next still goes rest ih =>
    rw [Nat.succ_add, pollMenu_succ report _ goes]
    exact ih

/-- With fewer frames, the menu is still running when they are over, and the host is calm. -/
theorem runsOut (frames : Frames visit.menu calm count session last) (report : StepReport)
    {limit : Nat} (short : limit < count) : ∃ after : Session,
      pollMenu visit report session.nextFrame limit =
        .ok (report.running visit, after.nextFrame) ∧ calm after.context.host := by
  -- The limit runs out before one of the frames, and the host is calm before each.
  induction frames generalizing limit with
  | none session => exact absurd short (Nat.not_lt_zero _)
  | @next session last count still goes rest ih =>
    cases limit with
    | zero => exact ⟨session, rfl, still⟩
    | succ limit =>
      rw [pollMenu_succ report _ goes]
      exact ih (Nat.lt_of_succ_lt_succ short)

end Frames

/-- However a session shows the first scene, a number of calm frames lead to the second. -/
def Takes (menu : TalkingMenu) (id : Int32) (calm : SimulatedHost → Prop) (count : Nat)
    (before after : Scene) : Prop :=
  ∀ session : Session, session.Shows menu id before →
    ∃ last, Frames id calm count session last ∧ last.Shows menu id after

section

variable {menu : TalkingMenu} {id : Int32} {calm : SimulatedHost → Prop} {before mid after : Scene}

/-- A scene takes no frames to be shown where it is shown. -/
theorem Takes.refl (scene : Scene) : Takes menu id calm 0 scene scene :=
  fun session shows => ⟨session, .none session, shows⟩

/-- A poll after input takes one frame. -/
theorem Polls.takes (steady : menu.Steady) (still : ∀ state host, before state host → calm host)
    (polls : Polls menu id before.arrived after) : Takes menu id calm 1 before after := by
  intro session shows
  obtain ⟨answer, shown⟩ := shows.nextFrame.polled steady polls
  exact ⟨_, .next (still _ _ shows.scene) answer (.none _), shown⟩

/-- Scene follows on scene, and the frames between them add up. -/
theorem Takes.trans {first second : Nat} (takes : Takes menu id calm first before mid)
    (others : Takes menu id calm second mid after) :
    Takes menu id calm (first + second) before after := by
  intro session shows
  obtain ⟨between, frames, shown⟩ := takes session shows
  obtain ⟨last, more, shown⟩ := others between shown
  exact ⟨last, frames.trans more, shown⟩

end

/-- A visit to a menu: an opening scene, the frames from the first poll to the last scene, and a poll that ends it. -/
structure Course (menu : TalkingMenu) (id : Int32) (calm : SimulatedHost → Prop)
    (opening last : Scene) (count : Nat) (closed : Int32 → SimulatedHost → Prop) : Prop where
  steady : menu.Steady
  still : ∀ state host, opening state host → calm host
  kept : ∀ host, calm host → calm host.advanceFrame
  frames : ∃ first, Polls menu id opening first ∧ Takes menu id calm count first last
  ends : Ends menu id last.arrived closed

namespace Course

variable {menu : TalkingMenu} {visit : MenuVisit} {calm : SimulatedHost → Prop}
  {opening last : Scene} {count : Nat} {closed : Int32 → SimulatedHost → Prop} {session : Session}

/-- A visit that may take all its frames, and the first poll and the last, finishes after them. -/
theorem finishes (course : Course menu visit.menu calm opening last count closed)
    (shows : session.Shows menu visit.menu opening) (report : StepReport)
    (enough : count + 2 ≤ visit.frameLimit) : ∃ value after,
      pollMenu visit report session visit.frameLimit =
        .ok (report.finished value (count + 2), after) ∧ closed value after.context.host := by
  obtain ⟨first, begins, takes⟩ := course.frames
  obtain ⟨goes, shown⟩ := shows.polled course.steady begins
  obtain ⟨reached, frames, shown⟩ := takes _ shown
  -- The limit is spent on the first poll, the frames of the course and the last poll.
  obtain ⟨value, answer, closed⟩ := shown.nextFrame.finished course.ends
  obtain ⟨left, limit⟩ := Nat.exists_eq_add_of_le enough
  refine ⟨value, reached.nextFrame.polled visit.menu, ?_, closed⟩
  have split : visit.frameLimit = count + (left + 1) + 1 := by omega
  have spent : visit.frameLimit - left = count + 2 := by omega
  rw [split, pollMenu_succ report _ goes]
  refine (frames.poll report (left + 1)).trans ((pollMenu_succ report left answer).trans ?_)
  rw [spent]
  rfl

/-- A visit that may not take so many is still running when its frames are over. -/
theorem runsOut (course : Course menu visit.menu calm opening last count closed)
    (shows : session.Shows menu visit.menu opening) (report : StepReport)
    (short : visit.frameLimit < count + 2) : ∃ after,
      pollMenu visit report session visit.frameLimit = .ok (report.running visit, after) ∧
      (visit.frameLimit ≤ count → calm after.context.host) ∧
      (count < visit.frameLimit → ∃ state, last.arrived state after.context.host) := by
  obtain ⟨first, begins, takes⟩ := course.frames
  obtain ⟨goes, shown⟩ := shows.polled course.steady begins
  obtain ⟨reached, frames, shown⟩ := takes _ shown
  cases limit : visit.frameLimit with
  | zero =>
    -- Not even the first poll is taken.
    exact ⟨session, rfl, fun _ => course.still _ _ shows.scene, by simp⟩
  | succ polls =>
    rw [pollMenu_succ report _ goes]
    rcases Nat.lt_or_ge polls count with early | late
    · obtain ⟨after, ran, still⟩ := frames.runsOut report early
      exact ⟨_, ran, fun _ => course.kept _ still, by omega⟩
    · -- Only the last poll is missing.
      obtain rfl : polls = count := by omega
      exact ⟨_, frames.poll report 0, by omega, fun _ => ⟨_, shown.nextFrame.scene⟩⟩

end Course

/-- A menu that is started without a halt is polled, and what the polls report is reported. -/
theorem runStep_started {index : Nat} {visit : MenuVisit} {session : Session}
    {result : StepReport × Session} (answer : (session.starting visit).answer = .ok (.ok ()))
    (polled : pollMenu visit { index, kind := "menu" } (session.started visit) visit.frameLimit =
      .ok result) :
    runStep index (.menu visit) session = .ok result := by
  rw [runStep_menu, runMenu_eq, answer]
  exact polled

end DungeonHooks.Replay
