import DungeonHooks.Proofs.Menu.Talks
import DungeonHooks.Proofs.Replay.Steps

/-! Two replays side by side: what relates their sessions is kept by every step, or both stop for the same reason. -/

namespace DungeonHooks

namespace Replay

/-- Two computations end together: with the same error, or with values that are related. -/
inductive Together {ε α β : Type _} (related : α → β → Prop) : Except ε α → Except ε β → Prop where
  | stopped (cause : ε) : Together related (.error cause) (.error cause)
  | went {value : α} {other : β} (alike : related value other) :
    Together related (.ok value) (.ok other)

/-- If the first ends with a value, so does the second. -/
theorem Together.ok {ε α β : Type _} {related : α → β → Prop} {value : α} {second : Except ε β}
    (together : Together related (.ok value) second) :
    ∃ other, second = .ok other ∧ related value other := by
  -- An error would be one of both.
  cases together with
  | went alike => exact ⟨_, rfl, alike⟩

/-- Errors of another name are still the same on both sides. -/
theorem Together.mapError {ε κ α β : Type _} {related : α → β → Prop} {first : Except ε α}
    {second : Except ε β} (together : Together related first second) (rename : ε → κ) :
    Together related (first.mapError rename) (second.mapError rename) := by
  cases together with
  | stopped cause => exact .stopped (rename cause)
  | went alike => exact .went alike

/-- The same is reported, and the sessions behind it are related. -/
structure Reported (related : Session → Session → Prop) (result other : StepReport × Session) :
    Prop where
  report : result.1 = other.1
  sessions : related result.2 other.2

/-- Related sessions have the same host and the same talking menus, and stay related while these change together. -/
structure MenusShared (related : Session → Session → Prop) : Prop where
  host : ∀ {session other}, related session other → session.context.host = other.context.host
  menus : ∀ {session other}, related session other → session.engine.menus = other.engine.menus
  talks : ∀ {session other}, related session other →
    session.engine.menus.Talks fun _ => True
  call : ∀ {session other}, related session other → ∀ {machine machine' cx cx'},
    machine = machine' → machine.table = session.engine.menus.table → cx.host = cx'.host →
      related { session with engine := { session.engine with menus := machine }, context := cx }
        { other with engine := { other.engine with menus := machine' }, context := cx' }

section

variable {related : Session → Session → Prop} {session other : Session}

/-- Related sessions stay related over a frame of the player's input. -/
theorem MenusShared.nextFrame (shared : MenusShared related) (alike : related session other) :
    related session.nextFrame other.nextFrame :=
  -- The menus stay as they are.
  shared.call alike (shared.menus alike) rfl
    (congrArg SimulatedHost.advanceFrame (shared.host alike))

/-- A menu is polled together in related sessions, whatever input it was visited with. -/
theorem pollMenu_together (shared : MenusShared related) (step : MenuVisit) (input : PlayerInput)
    (report : StepReport) (frames : Nat) (alike : related session other) :
    Together (Reported related) (pollMenu step report session frames)
      (pollMenu { step with input } report other frames) := by
  induction frames generalizing session other with
  | zero => exact .went ⟨rfl, alike⟩
  | succ frames ih =>
    -- Each poll is answered alike, so that both menus halt, or go on, or neither does.
    have agrees : (session.engine.menus.step step.menu session.context).Agrees Eq
        (other.engine.menus.step step.menu other.context) := by
      rw [← shared.menus alike]
      exact MenuMachine.step_agrees ((shared.talks alike).respects respected_eq) step.menu
        (shared.host alike)
    have polled : related (session.polled step.menu) (other.polled step.menu) :=
      shared.call alike agrees.machine (MenuMachine.step_table ..) agrees.host
    cases answer : (session.engine.menus.step step.menu session.context).answer with
    | error halt =>
      have same := agrees.answer.symm.trans answer
      rw [pollMenu_halted report frames answer,
        @pollMenu_halted { step with input } other halt report frames same]
      exact .stopped halt
    | ok poll =>
      have same := agrees.answer.symm.trans answer
      rw [pollMenu_succ report frames answer,
        @pollMenu_succ { step with input } other poll report frames same]
      split
      · exact .went ⟨rfl, polled⟩
      · exact ih (shared.nextFrame polled)

/-- A menu is visited together in related sessions. -/
theorem runMenu_together (shared : MenusShared related) (step : MenuVisit) (report : StepReport)
    (alike : related session other) :
    Together (Reported related) (runMenu step report session) (runMenu step report other) := by
  -- The same input is queued on the same host.
  have agrees : (session.starting step).Agrees Eq (other.starting step) := by
    rw [Session.starting, Session.starting, ← shared.menus alike]
    exact MenuMachine.start_agrees ((shared.talks alike).respects respected_eq) step.menu
      (congrArg (SimulatedHost.queueInput · step.input) (shared.host alike))
  have started : related (session.started step) (other.started step) :=
    shared.call alike agrees.machine (MenuMachine.start_table ..) agrees.host
  rw [runMenu_eq, runMenu_eq, ← agrees.answer]
  rcases (session.starting step).answer with halt | error | _
  · exact .stopped halt
  · exact .went ⟨rfl, started⟩
  · exact pollMenu_together shared step step.input report step.frameLimit started

/-- What every step keeps is kept by a whole replay, which reports the same, and stops for the same reason if it stops. -/
theorem runSteps_together
    (keeps : ∀ index step {session other}, related session other →
      Together (Reported related) (runStep index step session) (runStep index step other))
    (logs : ∀ report {session other}, related session other →
      related (session.logStep report) (other.logStep report))
    (index : Nat) (steps : List Step) (alike : related session other) :
    (runSteps index steps session).1 = (runSteps index steps other).1 ∧
      related (runSteps index steps session).2.1 (runSteps index steps other).2.1 ∧
      (runSteps index steps session).2.2 = (runSteps index steps other).2.2 := by
  induction steps generalizing index session other with
  | nil => exact ⟨rfl, alike, rfl⟩
  | cons step rest ih =>
    have first := keeps index step alike
    unfold runSteps
    generalize runStep index step session = ran at first ⊢
    generalize runStep index step other = ran' at first ⊢
    cases first with
    | stopped cause => exact ⟨rfl, alike, rfl⟩
    | @went result result' reported =>
      obtain ⟨report, session⟩ := result
      obtain ⟨_, other⟩ := result'
      obtain ⟨rfl, alike⟩ := reported
      obtain ⟨reports, sessions, stop⟩ := ih (index + 1) (logs report alike)
      exact ⟨congrArg (report :: ·) reports, sessions, stop⟩

end

end Replay

end DungeonHooks
