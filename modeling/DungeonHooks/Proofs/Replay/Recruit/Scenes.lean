import DungeonHooks.Proofs.Replay.Recruit.Seats
import DungeonHooks.Proofs.Replay.Visit

/-! The scenes of a recruit session, and the frames that lead from one to the next. -/

namespace DungeonHooks.Replay

open RecruitMenu

/-- Where a stage leads, a frame of the session leads, and the session goes on. -/
theorem going_leads {state : MenuState} {talk : Talk MenuState} (going : Going state talk)
    {pre : SimulatedHost → Prop} {post : Scene} (leads : Talk.Leads pre talk post) (menu : Int32) :
    Talk.Leads pre (TalkingMenu.recruit.frame menu state) fun ended host =>
      ended.1 = false ∧ post ended.2 host := by
  have updated : update state = goingOn talk := by
    cases going with
    | browse stage | chooseForm stage | awaitGender stage | commit stage => simp only [update, stage]
  have goes : Talk.Leads pre (update state) fun ended host =>
      if ended.1 then False else ended.1 = false ∧ post ended.2 host := by
    rw [updated]
    exact leads.bind fun _ => Talk.leads_done fun _ holds => ⟨rfl, holds⟩
  -- A session that goes on is not closed.
  have never (after : MenuState) : Talk.Leads (fun _ : SimulatedHost => False) (close after)
      fun closed host => true = false ∧ post closed host :=
    fun _ impossible => impossible.elim
  refine TalkingMenu.leads_frame (goes.weaken fun ended host holds => ?_) never
  cases flag : ended.1 with
  | false => simpa [flag] using holds
  | true => simp [flag] at holds

/-- The session waits at its list, with input to come. -/
def AtList (world : SimulatedHost) (closed : Nat) (choices : List ListChoice)
    (answers : List Int32) : Scene := fun state host =>
  ∃ option picked portraits,
    Seated world .browse { option, picked, closed, choices, answers, portraits } state host

/-- An option of the list was picked. -/
def AtForm (world : SimulatedHost) (closed : Nat) (picked : Int32) (choices : List ListChoice)
    (answers : List Int32) : Scene := fun state host =>
  (∃ option portraits, Seated world .chooseForm
    { waits := false, option, picked, closed, choices, answers, portraits } state host) ∧
  state.result speciesResult = picked

/-- The session waits at its gender menu. -/
def AtGender (world : SimulatedHost) (closed : Nat) (picked : Int32) (choices : List ListChoice)
    (answers : List Int32) : Scene := fun state host =>
  (∃ option portraits, Seated world .awaitGender
    { waits := false, gender := some none, option, picked, closed, choices, answers, portraits }
    state host) ∧
  state.result speciesResult = picked

/-- Nothing on the desk waits any more, and no input is to come. -/
structure Desk.Spent (desk : Desk) : Prop where
  closed : desk.waits = false
  settled : desk.gender ≠ some none
  choices : desk.choices = []
  answers : desk.answers = []

/-- A species is to be written into the roster. -/
def AtCommit (world : SimulatedHost) (species : Int32) : Scene := fun state host =>
  ∃ desk : Desk, desk.Spent ∧ Seated world .commit desk state host ∧ chosen state = species

/-- The session is over, with an outcome, but its windows are still open. -/
def AtEnd (outcome : SimulatedHost → Int32 → Prop) : Scene := fun state host =>
  ∃ (filled : SimulatedHost) (desk : Desk), desk.Spent ∧ Seated filled .done desk state host ∧
    outcome filled state.returnValue

section

variable {world : SimulatedHost} {menu : Int32} {closed : Nat} {picked : Int32}
  {choices : List ListChoice} {answers : List Int32}

/-- What stands on a desk leaves the roster alone. -/
theorem Seated.members {stage : Stage} {desk : Desk} {state : MenuState} {host : SimulatedHost}
    (seated : Seated world stage desk state host) : SameMembers world host := by
  rw [seated.host]
  exact ⟨rfl, rfl⟩

/-- A stage that goes on takes a frame, with the roster as it is before. -/
theorem takes_of_going {before after : Scene} (goes : ∀ state host, before state host →
    SameMembers world host ∧ ∃ talk, Going state talk ∧
      Talk.Leads (· = host.advanceFrame) talk after) :
    Takes .recruit menu (SameMembers world) 1 before after := by
  -- The roster is as before in the scene, so the host is calm before the frame.
  refine Polls.takes recruit_steady (fun state host scene => (goes state host scene).1) ?_
  intro state cx arrived
  obtain ⟨shown, scene, host⟩ := arrived
  obtain ⟨-, talk, going, leads⟩ := goes state shown scene
  exact going_leads going leads menu cx host

/-- The cursor visits the options before a choice, a frame each. -/
theorem takes_hover {hover : List Int32} {result : Int32} :
    Takes .recruit menu (SameMembers world) hover.length
      (AtList world closed (⟨hover, result⟩ :: choices) answers)
      (AtList world closed (⟨[], result⟩ :: choices) answers) := by
  -- A frame takes the first option, and the list waits as before.
  induction hover with
  | nil => exact .refl _
  | cons option hover ih =>
    rw [List.length_cons, Nat.add_comm]
    refine Takes.trans (takes_of_going fun state host scene => ?_) ih
    obtain ⟨before, picked, portraits, stage, slotted, rfl⟩ := scene
    refine ⟨⟨rfl, rfl⟩, _, .browse stage, ?_⟩
    rw [Desk.advance_hover rfl rfl rfl]
    refine Talk.Leads.weaken (browse_waits slotted stage rfl) ?_
    intro after host moved
    obtain ⟨portraits, seated⟩ := moved
    exact ⟨option, picked, portraits, seated⟩

/-- An option that is picked goes on to its forms. -/
theorem takes_pick (taken : 0 ≤ picked) :
    Takes .recruit menu (SameMembers world) 1
      (AtList world closed (⟨[], picked⟩ :: choices) answers)
      (AtForm world closed picked choices answers) := by
  refine takes_of_going fun state host scene => ?_
  obtain ⟨option, before, portraits, stage, slotted, rfl⟩ := scene
  refine ⟨⟨rfl, rfl⟩, _, .browse stage, ?_⟩
  rw [Desk.advance_pick rfl rfl rfl]
  refine Talk.Leads.weaken (browse_closed slotted rfl) ?_
  intro after host chosen
  rw [if_neg (Int32.not_lt.mpr taken)] at chosen
  exact ⟨⟨option, portraits, chosen.1⟩, chosen.2⟩

/-- A list that is cancelled ends the session, and nobody joins. -/
theorem takes_cancel (cancelled : picked < 0) :
    Takes .recruit menu (SameMembers world) 1 (AtList world closed [⟨[], picked⟩] [])
      (AtEnd fun filled value => value = -1 ∧ SameMembers world filled) := by
  refine takes_of_going fun state host scene => ?_
  obtain ⟨option, before, portraits, stage, slotted, rfl⟩ := scene
  refine ⟨⟨rfl, rfl⟩, _, .browse stage, ?_⟩
  rw [Desk.advance_pick rfl rfl rfl]
  refine Talk.Leads.weaken (browse_closed slotted rfl) ?_
  intro after host ended
  rw [if_pos cancelled] at ended
  exact ⟨world, _, ⟨rfl, by simp, rfl, rfl⟩, ended.1, ended.2, rfl, rfl⟩

/-- A species of one form goes on to the commit. -/
theorem takes_single (single : world.genderOf (picked + 1 + secondFormOffset) = .invalid) :
    Takes .recruit menu (SameMembers world) 1 (AtForm world closed picked [] [])
      (AtCommit world (picked + 1)) := by
  refine takes_of_going fun state host scene => ?_
  obtain ⟨⟨option, portraits, stage, slotted, rfl⟩, rfl⟩ := scene
  refine ⟨⟨rfl, rfl⟩, _, .chooseForm stage, ?_⟩
  rw [Desk.advance_still rfl (by simp)]
  refine Talk.Leads.weaken (chooseForm_single slotted single) ?_
  exact fun after host ready => ⟨_, ⟨rfl, by simp, rfl, rfl⟩, ready⟩

/-- A species of two forms has its gender asked for. -/
theorem takes_ask (room : closed + 3 ≤ UInt32.size)
    (dual : world.genderOf (picked + 1 + secondFormOffset) ≠ .invalid) :
    Takes .recruit menu (SameMembers world) 1 (AtForm world closed picked choices answers)
      (AtGender world closed picked choices answers) := by
  refine takes_of_going fun state host scene => ?_
  obtain ⟨⟨option, portraits, stage, slotted, rfl⟩, rfl⟩ := scene
  refine ⟨⟨rfl, rfl⟩, _, .chooseForm stage, ?_⟩
  rw [Desk.advance_still rfl (by simp)]
  -- The gender menu is one more window, which needs a handle of its own.
  refine Talk.Leads.weaken (chooseForm_dual slotted rfl ?_ dual) ?_
  · simp only [Desk.opened, Option.isSome_none, Bool.toNat_false]
    omega
  · intro after host asked
    exact ⟨⟨option, portraits, asked.1⟩, asked.2⟩

/-- An answer that backs out goes on at the list, which waits again. -/
theorem takes_back {answer : Int32} (backs : answer ≤ 0) :
    Takes .recruit menu (SameMembers world) 1
      (AtGender world closed picked choices (answer :: answers))
      (AtList world (closed + 1) choices answers) := by
  refine takes_of_going fun state host scene => ?_
  obtain ⟨⟨option, portraits, stage, slotted, rfl⟩, rfl⟩ := scene
  refine ⟨⟨rfl, rfl⟩, _, .awaitGender stage, ?_⟩
  rw [Desk.advance_answer rfl rfl rfl]
  refine Talk.Leads.weaken (awaitGender_backs slotted rfl backs) ?_
  exact fun after host again => ⟨_, _, _, again⟩

/-- An answer that chooses goes on to the commit. -/
theorem takes_answer {answer : Int32} (chooses : 0 < answer) :
    Takes .recruit menu (SameMembers world) 1 (AtGender world closed picked [] [answer])
      (AtCommit world (formChosen picked answer)) := by
  refine takes_of_going fun state host scene => ?_
  obtain ⟨⟨option, portraits, stage, slotted, rfl⟩, rfl⟩ := scene
  refine ⟨⟨rfl, rfl⟩, _, .awaitGender stage, ?_⟩
  rw [Desk.advance_answer rfl rfl rfl]
  refine Talk.Leads.weaken (awaitGender_chooses ?_ rfl chooses) ?_
  · exact slotted
  · exact fun after host ready => ⟨_, ⟨rfl, by simp, rfl, rfl⟩, ready⟩

/-- A commit ends the session, with the roster as the commit leaves it. -/
theorem takes_commit {species : Int32} :
    Takes .recruit menu (SameMembers world) 1 (AtCommit world species)
      (AtEnd (Enlists species world)) := by
  refine takes_of_going fun state host scene => ?_
  -- The gender menu may still be open, but it has its answer, so no input is taken.
  obtain ⟨desk, spent, ⟨stage, slotted, rfl⟩, rfl⟩ := scene
  refine ⟨⟨rfl, rfl⟩, _, .commit stage, ?_⟩
  rw [Desk.advance_still spent.closed spent.settled]
  refine Talk.Leads.weaken (commit_seated slotted) ?_
  intro after host committed
  obtain ⟨filled, enlists, seated⟩ := committed
  exact ⟨filled, desk, spent, seated, enlists⟩

end

/-- The host when a session is over: no window is open, no input is left, and the roster is as the outcome has it. -/
structure Cleared (outcome : SimulatedHost → Int32 → Prop) (value : Int32) (host : SimulatedHost) :
    Prop where
  windows : host.windows = []
  input : host.input = {}
  members : ∃ filled, SameMembers filled host ∧ outcome filled value

/-- The last poll of a session closes its windows, and answers with the value of its outcome. -/
theorem ends_cleared {menu : Int32} {outcome : SimulatedHost → Int32 → Prop} :
    Ends .recruit menu (AtEnd outcome).arrived (Cleared outcome) := by
  intro state cx arrived
  obtain ⟨shown, ⟨filled, desk, spent, seated, holds⟩, host⟩ := arrived
  rw [seated.host, Desk.advance_still spent.closed spent.settled] at host
  -- The stage does nothing but end the session, so the frame is its closing talk.
  have ends : Talk.Leads (· = desk.on filled) (update state) fun ended host =>
      ended.1 = true ∧ ended.2 = state ∧ host = desk.on filled := by
    rw [update, seated.stage]
    exact Talk.leads_done fun host shown => ⟨rfl, rfl, shown⟩
  have closes (after : MenuState) : Talk.Leads (fun host => after = state ∧ host = desk.on filled)
      (close after) fun closed host => true = true ∧ Cleared outcome closed.returnValue host := by
    refine Talk.leads_given fun same => ?_
    rw [same]
    refine (close_clears seated.slotted).weaken fun closed host cleared => ?_
    obtain ⟨value, rfl⟩ := cleared
    refine ⟨rfl, rfl, ?_, filled, ⟨rfl, rfl⟩, value ▸ holds⟩
    simp [SimulatedHost.showing, Desk.on, spent.choices, spent.answers]
  have leads : Talk.Leads (· = desk.on filled) (TalkingMenu.recruit.frame menu state)
      fun ended host => ended.1 = true ∧ Cleared outcome ended.2.returnValue host := by
    refine TalkingMenu.leads_frame (ends.weaken fun ended host last => ?_) closes
    rw [if_pos last.1]
    exact last.2
  exact leads cx host

end DungeonHooks.Replay
