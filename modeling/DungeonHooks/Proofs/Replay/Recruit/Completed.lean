import DungeonHooks.Proofs.Replay.Recruit.Scenes

/-! A complete visit to the recruit menu, from the input of the player to the value and the roster. -/

namespace DungeonHooks.Replay

open RecruitMenu

/-- The species of an option has a second form. -/
def TwoForms (world : SimulatedHost) (option : Int32) : Prop :=
  world.genderOf (option + 1 + secondFormOffset) ≠ .invalid

instance (world : SimulatedHost) (option : Int32) : Decidable (TwoForms world option) :=
  inferInstanceAs (Decidable (_ ≠ _))

/-- An option that is picked, and the answer that backs out of its gender menu. -/
structure Round where
  choice : ListChoice
  answer : Int32

/-- A round that comes back to the list. -/
structure Round.Suits (round : Round) (world : SimulatedHost) : Prop where
  picked : 0 ≤ round.choice.result
  dual : TwoForms world round.choice.result
  backs : round.answer ≤ 0

/-- What comes of the last pick. -/
inductive Ending where
  | cancelled
  | oneForm
  | twoForms (gender : Int32)

namespace Ending

/-- The ending is the one that an option leads to. -/
inductive Suits (world : SimulatedHost) (option : Int32) : Ending → Prop where
  | cancelled (cancels : option < 0) : Suits world option .cancelled
  | oneForm (picked : 0 ≤ option) (single : ¬ TwoForms world option) : Suits world option .oneForm
  | twoForms {gender : Int32} (picked : 0 ≤ option) (dual : TwoForms world option)
      (chosen : 0 < gender) : Suits world option (.twoForms gender)

/-- The answers that the ending takes. -/
def answers : Ending → List Int32
  | .twoForms gender => [gender]
  | _ => []

/-- The frames of an ending, not counting those in which the cursor moves. -/
def frames : Ending → Nat
  | .cancelled => 3
  | .oneForm => 5
  | .twoForms _ => 6

/-- The species that is to be written into the roster, if there is one. -/
def species? (option : Int32) : Ending → Option Int32
  | .cancelled => none
  | .oneForm => some (option + 1)
  | .twoForms gender => some (formChosen option gender)

end Ending

/-- What the player does in the recruit menu: some rounds, and a last pick that ends the session. -/
structure RecruitPlan where
  rounds : List Round := []
  last : ListChoice
  ending : Ending

namespace RecruitPlan

/-- The choices of the player. -/
def choices (plan : RecruitPlan) : List ListChoice :=
  plan.rounds.map (·.choice) ++ [plan.last]

/-- The answers of the player. -/
def answers (plan : RecruitPlan) : List Int32 :=
  plan.rounds.map (·.answer) ++ plan.ending.answers

/-- The input of the player. -/
def input (plan : RecruitPlan) : PlayerInput :=
  { advanced := plan.choices, simple := plan.answers }

/-- The windows that are opened: list, portrait box, and a gender menu for each answer. -/
def windows (plan : RecruitPlan) : Nat :=
  2 + plan.answers.length

/-- The frames of all rounds. -/
def roundFrames : List Round → Nat
  | [] => 0
  | round :: rounds => round.choice.hover.length + 3 + roundFrames rounds

/-- The frames that the session needs. -/
def frames (plan : RecruitPlan) : Nat :=
  roundFrames plan.rounds + plan.last.hover.length + plan.ending.frames

/-- The species that is to be written into the roster, if there is one. -/
def species? (plan : RecruitPlan) : Option Int32 :=
  plan.ending.species? plan.last.result

/-- The frame that writes it there: the one before the last. -/
def commitFrame? (plan : RecruitPlan) : Option Nat :=
  plan.species?.map fun _ => plan.frames - 1

/-- On the host, the rounds come back to the list and the last pick leads to the ending. -/
structure Suits (plan : RecruitPlan) (world : SimulatedHost) : Prop where
  rounds : ∀ round ∈ plan.rounds, round.Suits world
  ending : plan.ending.Suits world plan.last.result
  /-- Handles are words, so a session that opens more windows would be given one twice. -/
  handles : plan.windows ≤ UInt32.size

/-- What the session makes of the roster, with the value that tells about it. -/
def Leaves (plan : RecruitPlan) (before after : SimulatedHost) (value : Int32) : Prop :=
  match plan.species? with
  | none => value = -1 ∧ SameMembers before after
  | some species => Enlists species before after value

/-- The session is over, with its value, and left neither a window nor input. -/
structure Completes (plan : RecruitPlan) (before after : SimulatedHost) (value : Int32) : Prop where
  leaves : plan.Leaves before after value
  input : after.input = {}
  windows : after.openWindows = 0

/-- The session was given up after some frames: nobody joined unless the commit was among them. -/
structure Interrupted (plan : RecruitPlan) (frames : Nat) (before after : SimulatedHost) :
    Prop where
  nobody : (∀ commit ∈ plan.commitFrame?, frames < commit) → SameMembers before after
  committed : ∀ commit ∈ plan.commitFrame?, commit ≤ frames →
    ∃ value, plan.Leaves before after value

variable {plan : RecruitPlan} {before after other : SimulatedHost} {value : Int32}

/-- Every plan takes the first frame, the one of the last pick, and the last frame. -/
theorem three_le_frames : 3 ≤ plan.frames := by
  have ending : 3 ≤ plan.ending.frames := by cases plan.ending <;> simp [Ending.frames]
  exact Nat.le_trans ending (Nat.le_add_left ..)

/-- It takes no more than that the roster is the same after it. -/
theorem Leaves.same (leaves : plan.Leaves before after value) (same : SameMembers after other) :
    plan.Leaves before other value := by
  unfold Leaves at *
  cases species : plan.species? with
  | none =>
    rw [species] at leaves
    exact ⟨leaves.1, leaves.2.trans same⟩
  | some chosen =>
    rw [species] at leaves
    exact leaves.same same

/-- Without a species, nobody joins. -/
theorem Leaves.nobody (leaves : plan.Leaves before after value) (none : plan.species? = none) :
    SameMembers before after := by
  rw [Leaves, none] at leaves
  exact leaves.2

/-- Until the last frame but one nobody joins, and after it the roster is as the plan leaves it. -/
theorem Interrupted.of_course {frames : Nat}
    (early : frames ≤ plan.frames - 2 → SameMembers before after)
    (late : plan.frames - 2 < frames → ∃ value, plan.Leaves before after value) :
    plan.Interrupted frames before after := by
  have three := @three_le_frames plan
  constructor
  · intro uncommitted
    -- A session that only misses its last frame has nobody to join, or it has committed.
    rcases Nat.lt_or_ge (plan.frames - 2) frames with missed | soon
    · obtain ⟨value, leaves⟩ := late missed
      refine leaves.nobody (Option.eq_none_iff_forall_ne_some.mpr fun species chosen => ?_)
      have before := uncommitted (plan.frames - 1) (by simp [commitFrame?, chosen])
      omega
    · exact early soon
  · intro commit framed reached
    obtain ⟨species, -, rfl⟩ := Option.map_eq_some_iff.mp framed
    exact late (by omega)

end RecruitPlan

section

variable {world : SimulatedHost} {menu : Int32} {closed : Nat} {choices : List ListChoice}
  {answers : List Int32}

/-- A round comes back to the list three frames after the cursor is where it should be. -/
theorem takes_round {round : Round} (suits : round.Suits world) (room : closed + 3 ≤ UInt32.size) :
    Takes .recruit menu (SameMembers world) (round.choice.hover.length + 3)
      (AtList world closed (round.choice :: choices) (round.answer :: answers))
      (AtList world (closed + 1) choices answers) :=
  takes_hover.trans ((takes_pick suits.picked).trans
    ((takes_ask room suits.dual).trans (takes_back suits.backs)))

/-- However many rounds there are, their frames add up. -/
theorem takes_rounds {rounds : List Round} (suits : ∀ round ∈ rounds, round.Suits world)
    (room : closed + rounds.length + 2 ≤ UInt32.size) :
    Takes .recruit menu (SameMembers world) (RecruitPlan.roundFrames rounds)
      (AtList world closed (rounds.map (·.choice) ++ choices) (rounds.map (·.answer) ++ answers))
      (AtList world (closed + rounds.length) choices answers) := by
  -- Every round leaves one gender menu more behind it.
  induction rounds generalizing closed with
  | nil => exact .refl _
  | cons round rounds ih =>
    obtain ⟨first, rest⟩ := List.forall_mem_cons.mp suits
    rw [List.length_cons] at room
    have later := @ih (closed + 1) rest (by omega)
    rw [Nat.add_right_comm] at later
    exact (takes_round first (by omega)).trans later

/-- The last pick ends the session, in as many frames as its ending takes. -/
theorem takes_ending {last : ListChoice} {ending : Ending} (suits : ending.Suits world last.result)
    (room : closed + ending.answers.length + 2 ≤ UInt32.size) :
    Takes .recruit menu (SameMembers world) (last.hover.length + (ending.frames - 2))
      (AtList world closed [last] ending.answers)
      (AtEnd fun filled value =>
        RecruitPlan.Leaves { last, ending } world filled value) := by
  refine takes_hover.trans ?_
  -- What the ending takes is the number of scenes from here on.
  cases suits with
  | cancelled cancels => exact takes_cancel cancels
  | oneForm picked single =>
    exact (takes_pick picked).trans ((takes_single (Decidable.not_not.mp single)).trans takes_commit)
  | twoForms picked dual chosen =>
    exact (takes_pick picked).trans ((takes_ask room dual).trans ((takes_answer chosen).trans
      takes_commit))

/-- Polling a list that waits, before any input, changes nothing. -/
theorem polls_list : Polls .recruit menu (AtList world closed choices answers)
    (AtList world closed choices answers) := by
  intro state cx scene
  -- The portrait may follow the cursor once more, which is no part of the scene.
  obtain ⟨option, picked, portraits, stage, slotted, host⟩ := scene
  refine going_leads (.browse stage) ((browse_waits slotted stage rfl).weaken ?_) menu cx host
  intro after host moved
  obtain ⟨portraits, seated⟩ := moved
  exact ⟨option, picked, portraits, seated⟩

/-- From the list to the end, a session takes all its frames but the first and the last. -/
theorem RecruitPlan.course {plan : RecruitPlan} (suits : plan.Suits world) :
    Course .recruit menu (SameMembers world) (AtList world 0 plan.choices plan.answers)
      (AtEnd (plan.Leaves world)) (plan.frames - 2) (Cleared (plan.Leaves world)) := by
  have handles : plan.rounds.length + plan.ending.answers.length + 2 ≤ UInt32.size := by
    have := suits.handles
    simp only [RecruitPlan.windows, RecruitPlan.answers, List.length_append, List.length_map] at this
    omega
  have rounds := @takes_rounds world menu 0 [plan.last] plan.ending.answers plan.rounds suits.rounds
    (by omega)
  have ending := @takes_ending world menu (0 + plan.rounds.length) plan.last plan.ending suits.ending
    (by omega)
  -- The first poll and the last are not between the two scenes.
  have frames : plan.frames - 2 = RecruitPlan.roundFrames plan.rounds +
      (plan.last.hover.length + (plan.ending.frames - 2)) := by
    have ending : 2 ≤ plan.ending.frames := by cases plan.ending <;> simp [Ending.frames]
    simp only [RecruitPlan.frames]
    omega
  rw [frames]
  exact
    { steady := recruit_steady
      still := fun state host scene => by
        obtain ⟨_, _, _, seated⟩ := scene
        exact seated.members
      kept := fun host same => same.trans (.advanceFrame host)
      frames := ⟨_, polls_list, rounds.trans ending⟩
      ends := ends_cleared }

end

/-- A visit to the recruit menu completes its plan in just as many frames as the plan has, if it may take so many. -/
theorem recruit_visit {index : Nat} {visit : MenuVisit} {session : Session}
    {descriptor : MenuDescriptor SimulatedHost} {plan : RecruitPlan}
    (known : session.engine.menus.table.lookup visit.menu = .ok descriptor)
    (recruits : descriptor.menu = .recruit) (bare : session.context.host.windows = [])
    (idle : session.context.host.input = {}) (planned : visit.input = plan.input)
    (suits : plan.Suits session.context.host) :
    let report : StepReport := { index, kind := "menu" }
    (plan.frames ≤ visit.frameLimit → ∃ value after,
      runStep index (.menu visit) session = .ok (report.finished value plan.frames, after) ∧
        plan.Completes session.context.host after.context.host value) ∧
    (visit.frameLimit < plan.frames → ∃ after,
      runStep index (.menu visit) session = .ok (report.running visit, after) ∧
        plan.Interrupted visit.frameLimit session.context.host after.context.host) := by
  intro report
  have opens := create_seated visit.menu bare idle plan.choices plan.answers
  have lists : Talk.Leads (· = session.context.host.queueInput visit.input)
      (TalkingMenu.recruit.create visit.menu { activeMenu := some visit.menu })
      (AtList session.context.host 0 plan.choices plan.answers) := by
    rw [planned]
    refine opens.weaken fun after host seated => ?_
    obtain ⟨portraits, seated⟩ := seated
    exact ⟨0, 0, portraits, seated⟩
  -- The start itself takes no frame, and shows the list.
  obtain ⟨answer, shows⟩ := Session.started_shows known recruits recruit_steady lists
  have course := @RecruitPlan.course _ visit.menu _ suits
  -- The course leaves out the first poll and the last.
  have three := @RecruitPlan.three_le_frames plan
  have all : plan.frames - 2 + 2 = plan.frames := by omega
  constructor
  · -- The value is that of the outcome, and closing the windows leaves the roster alone.
    intro enough
    obtain ⟨value, after, polled, cleared⟩ := course.finishes shows report (by omega)
    rw [all] at polled
    obtain ⟨filled, same, leaves⟩ := cleared.members
    refine ⟨value, after, runStep_started answer polled, leaves.same same, cleared.input, ?_⟩
    rw [SimulatedHost.openWindows, cleared.windows]
    rfl
  · -- If the last scene was reached the commit has been made, and otherwise the host was calm.
    intro short
    obtain ⟨after, polled, early, late⟩ := course.runsOut shows report (by omega)
    refine ⟨after, runStep_started answer polled, .of_course early fun missed => ?_⟩
    obtain ⟨state, shown, ⟨filled, desk, spent, seated, leaves⟩, host⟩ := late missed
    rw [host]
    exact ⟨_, leaves.same (seated.members.trans (.advanceFrame shown))⟩

/-- Species 25 has two forms, and the first slot of the roster is taken. -/
def twoFormWorld : WorldSetup where
  dualGender := [25]
  roster := .ofList [(0, newcomer 1 "Bulbasaur")]

/-- The player backs out of the gender menu once, and then picks the second form. -/
def secondThoughts : RecruitPlan where
  rounds := [{ choice := { hover := [3, 24], result := 24 }, answer := 0 }]
  last := { hover := [23], result := 24 }
  ending := .twoForms 2

/-- The session on that world, before the visit. -/
def twoFormSession : Session :=
  .start (Engine.new {}) { host := twoFormWorld.host } twoFormWorld

/-- A visit that follows the plan, with some frames to spend. -/
def secondThoughtsVisit (frameLimit : Nat) : MenuVisit :=
  { menu := 80, input := secondThoughts.input, frameLimit }

/-- The visit takes twelve frames, and it is given up after ten. -/
theorem secondThoughts_visit :
    (∃ value after, runStep 0 (.menu (secondThoughtsVisit 12)) twoFormSession =
        .ok (({ index := 0, kind := "menu" } : StepReport).finished value 12, after) ∧
      secondThoughts.Completes twoFormSession.context.host after.context.host value) ∧
    ∃ after, runStep 0 (.menu (secondThoughtsVisit 10)) twoFormSession =
        .ok (({ index := 0, kind := "menu" } : StepReport).running (secondThoughtsVisit 10), after) ∧
      secondThoughts.Interrupted 10 twoFormSession.context.host after.context.host := by
  have suits : secondThoughts.Suits twoFormSession.context.host :=
    { rounds := List.forall_mem_singleton.mpr ⟨by decide, by decide +kernel, by decide⟩
      ending := .twoForms (by decide) (by decide +kernel) (by decide)
      handles := by decide }
  exact ⟨(recruit_visit rfl rfl rfl rfl rfl suits).1 (by decide),
    (recruit_visit rfl rfl rfl rfl rfl suits).2 (by decide)⟩

/-- The second form goes into the second slot. -/
example : (runStep 0 (.menu (secondThoughtsVisit 12)) twoFormSession).map (·.1.value) =
    .ok (some 1) := by decide +kernel

end DungeonHooks.Replay
