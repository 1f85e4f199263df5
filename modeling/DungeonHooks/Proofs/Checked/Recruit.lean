import DungeonHooks.Proofs.Checked.Names
import DungeonHooks.Proofs.Checked.Talk
import DungeonHooks.Proofs.Checked.Tame
import DungeonHooks.Proofs.Replay.Recruit.Commit

/-! The recruit menu with checked operations, and why none of its checks fails on a tame host. -/

namespace DungeonHooks.Checked.Recruit

open RecruitMenu Replay

/-- The species of an option, for which there is one number more. -/
def species (option : Int32) : Except Halt Int32 :=
  add option 1

/-- The species chosen so far. -/
def chosen (state : MenuState) : Except Halt Int32 :=
  species (state.result speciesResult)

/-- The second form of a species or of an option. -/
def secondForm (monster : Int32) : Except Halt Int32 :=
  add monster secondFormOffset

/-- Puts a window into a slot by number, or empties it. -/
def setWindow (slot : Nat) (window : Option WindowId) (state : MenuState) :
    Except Halt MenuState :=
  (state.windows.set slot window).map fun windows => { state with windows }

/-- Opens the species list and the portrait box. -/
def create (state : MenuState) : CheckedTalk MenuState := do
  -- The host logs the label of the first option, which names its species.
  let _ ← species (Int32.ofNat 0)
  let list ← Talk.request (.createAdvancedMenu speciesList)
  let portrait ← Talk.request (.createPortraitBox 0 3 true)
  let state ← setWindow listSlot list { state with portrait := firstPortrait }
  let state ← setWindow portraitSlot portrait state
  showPortrait state
  return state

/-- Lets the portrait follow the cursor. -/
def follow (list : WindowId) (state : MenuState) : CheckedTalk MenuState := do
  let hovered ← Talk.request (.advancedMenuOption list)
  if hovered == state.previousOption then return state
  else
    let monsterId ← species hovered
    let portrait := { state.portrait with monsterId }
    let state := { state with previousOption := hovered, portrait }
    showPortrait state
    return state

/-- Follows the cursor until an option is picked or the list is cancelled. -/
def browse (state : MenuState) : CheckedTalk MenuState :=
  match state.windows.get listSlot with
  | none => liftM (RecruitMenu.browse state)
  | some list => do
    let active ← Talk.request (.advancedMenuActive list)
    if active then follow list state else pick list state

/-- The options of the gender menu, each a step behind the one before. -/
def genderOptions : Except Halt (List SimpleMenuOption) :=
  [0, 1].mapM fun (gender : UInt16) => do
    let stringId ← addHalf 15531 gender
    let resultValue ← add (Int32.ofNat gender.toNat) 1
    return { stringId, resultValue }

/-- Opens the gender menu; if none can be opened, the species joins as it is. -/
def askGender (state : MenuState) : CheckedTalk MenuState := do
  let species ← chosen state
  let options ← genderOptions
  let window ← Talk.request (.createSimpleMenu { genderMenu with options })
  match window with
  | some window =>
    let state ← setWindow genderSlot (some window) state
    return enter .awaitGender state
  | none =>
    Talk.request (.record .menus .error
      s!"Recruit menu could not open a gender menu; recruiting species {species.toInt}")
    return enter .commit state

/-- Asks for the gender, unless the species has only one form. -/
def chooseForm (state : MenuState) : CheckedTalk MenuState := do
  let species ← chosen state
  let form ← secondForm species
  let gender ← Talk.request (.monsterGender form)
  if gender == .invalid then return enter .commit state else askGender state

/-- Acts on the answer of the gender menu; the second option selects the second form. -/
def answered (choice : Int32) (state : MenuState) : CheckedTalk MenuState :=
  let state := state.setResult genderResult choice
  if choice ≤ 0 then liftM (backOut state)
  else if choice == 2 then do
    let second ← secondForm (state.result speciesResult)
    return enter .commit (state.setResult speciesResult second)
  else return enter .commit state

/-- Waits for a gender. Without a gender menu it is a cancel. -/
def awaitGender (state : MenuState) : CheckedTalk MenuState :=
  match state.windows.get genderSlot with
  | none => answered 0 state
  | some window => do
    let active ← Talk.request (.simpleMenuActive window)
    if active then return state
    else
      let choice ← Talk.request (.simpleMenuResult window)
      answered choice state

/-- Writes the recruit into the first free roster slot and returns the slot, or -2 if there is none. -/
def commit (state : MenuState) : CheckedTalk MenuState := do
  let species ← chosen state
  let free ← Talk.request (.firstEmptySlot rosterLimit)
  match free with
  | some slot =>
    let known ← Talk.request (.monsterName species)
    let name ← truncate known
    Talk.request (.recruit slot (newcomer species name))
    Talk.request (.setJoined species)
    Talk.request (.record .menus .info
      s!"Recruited {name} ({species.toInt}) into roster slot {slot}")
    return finish (Int32.ofNat slot) state
  | none =>
    Talk.request (.record .menus .warn s!"No roster space for monster {species.toInt}")
    return finish (-2) state

/-- A stage that is not the last goes on with the session. -/
def goingOn (talk : CheckedTalk MenuState) : CheckedTalk (Bool × MenuState) := do
  let state ← talk
  return (false, state)

/-- Runs one stage; the session is over when it starts a frame at the end. -/
def update (state : MenuState) : CheckedTalk (Bool × MenuState) :=
  match Stage.ofProgress state.progress with
  | .browse => goingOn (browse state)
  | .chooseForm => goingOn (chooseForm state)
  | .awaitGender => goingOn (awaitGender state)
  | .commit => goingOn (commit state)
  | .done => return (true, state)

/-- The option that was picked leaves room for the numbers that a stage makes of it. -/
structure Roomy (state : MenuState) : Prop where
  choosing : Stage.ofProgress state.progress = .chooseForm →
    state.result speciesResult ≤ lastOption
  waiting : Stage.ofProgress state.progress = .awaitGender →
    state.result speciesResult ≤ lastOption
  committing : Stage.ofProgress state.progress = .commit →
    state.result speciesResult < Int32.maxValue

section

variable {option : Int32}

/-- Every option but the last word has a species. -/
theorem species_eq (room : option < Int32.maxValue) : species option = .ok (option + 1) := by
  rw [Int32.lt_iff_toInt_lt] at room
  have least := option.minValue_le_toInt
  have one : (1 : Int32).toInt = 1 := rfl
  exact add_eq ⟨by omega, by omega⟩

/-- The last option is far from the last word. -/
theorem lt_maxValue (room : option ≤ lastOption) : option < Int32.maxValue := by
  have last : lastOption.toInt < Int32.maxValue.toInt := by decide
  rw [Int32.le_iff_toInt_le] at room
  rw [Int32.lt_iff_toInt_lt]
  omega

/-- Up to the last option, the second form has an option of its own, and that one has a species. -/
theorem secondForm_option (room : option ≤ lastOption) :
    secondForm option = .ok (option + secondFormOffset) ∧
      option + secondFormOffset < Int32.maxValue := by
  rw [Int32.le_iff_toInt_le] at room
  have least := option.minValue_le_toInt
  have distance : secondFormOffset.toInt = 600 := rfl
  have last : lastOption.toInt + 601 = Int32.maxValue.toInt := by decide
  have fits : Fits (option.toInt + secondFormOffset.toInt) := ⟨by omega, by omega⟩
  refine ⟨add_eq fits, ?_⟩
  rw [Int32.lt_iff_toInt_lt, toInt_add_eq fits]
  omega

/-- Up to the last option, the species has a second form, and from there the way back is open. -/
theorem secondForm_species (room : option ≤ lastOption) :
    secondForm (option + 1) = .ok (option + 1 + secondFormOffset) ∧
      (Request.monsterGender (option + 1 + secondFormOffset)).Sensible := by
  rw [Int32.le_iff_toInt_le] at room
  have least := option.minValue_le_toInt
  have one : (1 : Int32).toInt = 1 := rfl
  have distance : secondFormOffset.toInt = 600 := rfl
  have last : lastOption.toInt + 601 = Int32.maxValue.toInt := by decide
  have first := @toInt_add_eq option 1 ⟨by omega, by omega⟩
  have fits : Fits ((option + 1).toInt + secondFormOffset.toInt) := ⟨by omega, by omega⟩
  refine ⟨add_eq fits, ?_⟩
  rw [Request.Sensible, toInt_add_eq fits]
  exact ⟨by omega, by omega⟩

end

section

variable {state : MenuState} {cx : Context SimulatedHost}

/-- The species of an option with room is the one that is chosen. -/
theorem chosen_eq (room : state.result speciesResult < Int32.maxValue) :
    chosen state = .ok (RecruitMenu.chosen state) :=
  species_eq room

/-- The strings and the results of the genders are small. -/
theorem genderOptions_eq : genderOptions = .ok RecruitMenu.genderOptions := by
  decide

/-- A slot of the menu can be filled, whatever window it is for. -/
theorem setWindow_eq (slot : Fin menuSlots) (window : Option WindowId) (state : MenuState) :
    setWindow slot window state = .ok (RecruitMenu.setWindow slot window state) := by
  rw [setWindow, WindowSlots.set, dif_pos slot.isLt]
  rfl

/-- Plain requests need no checks. -/
theorem smooth_plain {α : Type} {talk : Talk α}
    (uses : talk.Uses fun request => request.asksGender = false) : Smooth (liftM talk) talk cx :=
  .lift (uses.mono fun _ => Request.sensible_of_plain)

/-- Showing the portrait needs no checks. -/
theorem showPortrait_smooth (state : MenuState) :
    Smooth (liftM (showPortrait state)) (showPortrait state) cx :=
  smooth_plain (showPortrait_uses (fun _ _ _ plain => plain) state)

/-- The session begins without a failure. -/
theorem create_smooth (state : MenuState) :
    Smooth (create state) (RecruitMenu.create state) cx := by
  refine .check (species_eq (by decide)) (.ask trivial (.ask trivial ?_))
  refine .check (setWindow_eq listSlot _ _) (.check (setWindow_eq portraitSlot _ _) ?_)
  exact (showPortrait_smooth _).bind (.done _)

/-- The cursor has a species to show, wherever it is. -/
theorem follow_smooth (tame : Tame cx.host) (list : WindowId) (state : MenuState) :
    Smooth (follow list state) (RecruitMenu.follow list state) cx := by
  refine .ask trivial (.choice (fun _ => .done _) fun _ => ?_)
  have hovered := species_eq (lt_maxValue (tame.option list))
  exact .check hovered ((showPortrait_smooth _).bind (.done _))

/-- So the list is watched without a failure. -/
theorem browse_smooth (tame : Tame cx.host) (state : MenuState) :
    Smooth (browse state) (RecruitMenu.browse state) cx := by
  unfold browse
  cases opened : state.windows.get listSlot with
  | none => exact smooth_plain (browse_uses (fun _ _ _ plain => plain) state)
  | some list =>
    simp only [RecruitMenu.browse, opened]
    -- Whether the list still waits is asked first, which leaves the host as it is.
    exact .ask trivial (.choice (fun _ => follow_smooth tame list state) fun _ =>
      smooth_plain (pick_uses (fun _ _ _ plain => plain) state list))

/-- An answer is no choice of a species. -/
theorem result_answered (choice : Int32) (state : MenuState) :
    (state.setResult genderResult choice).result speciesResult = state.result speciesResult := by
  rw [MenuState.result_setResult, if_neg (by decide)]

/-- A form is chosen without a failure. -/
theorem chooseForm_smooth (room : state.result speciesResult ≤ lastOption) :
    Smooth (chooseForm state) (RecruitMenu.chooseForm state) cx := by
  have known := @chosen_eq state (lt_maxValue room)
  obtain ⟨form, sensible⟩ := secondForm_species room
  refine .check known (.check form (.ask sensible (.choice (fun _ => .done _) fun _ => ?_)))
  refine .check known (.check genderOptions_eq (.ask trivial ?_))
  -- The simulated host refuses no window.
  exact .check (setWindow_eq genderSlot _ state) (.done _)

/-- An answer is acted on without a failure. -/
theorem answered_smooth (choice : Int32) (room : state.result speciesResult ≤ lastOption) :
    Smooth (answered choice state) (RecruitMenu.answered choice state) cx := by
  have kept := result_answered choice state
  refine .choice (fun _ => smooth_plain (backOut_uses (fun _ _ _ plain => plain) _)) fun _ => ?_
  refine .choice (fun _ => .check ?_ (.done _)) fun _ => .done _
  exact (secondForm_option (kept ▸ room)).1

/-- An answer is waited for without a failure. -/
theorem awaitGender_smooth (room : state.result speciesResult ≤ lastOption) :
    Smooth (awaitGender state) (RecruitMenu.awaitGender state) cx := by
  unfold awaitGender RecruitMenu.awaitGender
  cases state.windows.get genderSlot with
  | none => exact answered_smooth 0 room
  | some window =>
    exact .ask trivial (.choice (fun _ => .done _) fun _ =>
      .ask trivial (answered_smooth _ room))

/-- A commit does not fail, whatever the name of the species. -/
theorem commit_smooth (room : state.result speciesResult < Int32.maxValue) :
    Smooth (commit state) (RecruitMenu.commit state) cx := by
  refine .check (chosen_eq room) (.ask trivial ?_)
  cases ((Request.firstEmptySlot rosterLimit).serve cx).1 with
  | some slot =>
    exact .ask trivial (.check (truncate_eq _)
      (.ask trivial (.ask trivial (.ask trivial (.done _)))))
  | none => exact .ask trivial (.done _)

/-- No stage of the menu fails on a tame host, as long as there is room for what was picked. -/
theorem update_smooth (tame : Tame cx.host) (roomy : Roomy state) :
    Smooth (update state) (RecruitMenu.update state) cx := by
  have goes {checked : CheckedTalk MenuState} {plain : Talk MenuState}
      (smooth : Smooth checked plain cx) :
      Smooth (goingOn checked) (RecruitMenu.goingOn plain) cx :=
    smooth.bind (.done _)
  unfold update RecruitMenu.update
  cases stage : Stage.ofProgress state.progress with
  | browse => exact goes (browse_smooth tame state)
  | chooseForm => exact goes (chooseForm_smooth (roomy.choosing stage))
  | awaitGender => exact goes (awaitGender_smooth (roomy.waiting stage))
  | commit => exact goes (commit_smooth (roomy.committing stage))
  | done => exact .done _

/-- A session that watches the list, or is over, has made no number of an option yet. -/
theorem roomy_of_early (early : Stage.ofProgress state.progress = .browse ∨
    Stage.ofProgress state.progress = .done) : Roomy state := by
  rcases early with stage | stage <;> constructor <;> simp [stage]

/-- Once an option is picked there is room for it up to the last option. -/
theorem roomy_of_room (room : state.result speciesResult ≤ lastOption) : Roomy state :=
  ⟨fun _ => room, fun _ => room, fun _ => lt_maxValue room⟩

/-- A commit has room if it is entered with an option that has a species. -/
theorem roomy_commit (room : state.result speciesResult < Int32.maxValue) :
    Roomy (enter .commit state) := by
  constructor <;> simp only [stage_enter, reduceCtorEq, false_implies, true_implies]
  exact room

/-- Following the cursor keeps the session where it is. -/
theorem follow_stays (list : WindowId) (state : MenuState) :
    (RecruitMenu.follow list state).Always fun after _ => after.progress = state.progress := by
  simp only [RecruitMenu.follow, Talk.bind_eq, Talk.pure_eq_done, Talk.request, Talk.bind]
  intro hovered
  dsimp only
  split
  · exact rfl
  · -- The portrait is shown with the state that is handed on.
    simp only [Talk.always_bind, Talk.always_done]
    exact (showPortrait_passing _).mono fun _ _ _ => trivial

/-- What is picked from the list of a tame host leaves room. -/
theorem pick_roomy (tame : Tame cx.host) (list : WindowId) (state : MenuState) :
    Roomy ((pick list state).hold cx).value := by
  show Roomy (if Host.advancedMenuResult cx.host list < 0 then _ else _)
  split
  · exact roomy_of_early (.inr (stage_enter .done _))
  · refine roomy_of_room ?_
    show (state.setResult speciesResult _).result speciesResult ≤ lastOption
    rw [MenuState.result_setResult, if_pos rfl]
    exact tame.result list

/-- Watching the list leaves room. -/
theorem browse_roomy (tame : Tame cx.host) (browsing : Stage.ofProgress state.progress = .browse) :
    Roomy ((RecruitMenu.browse state).hold cx).value := by
  unfold RecruitMenu.browse
  cases state.windows.get listSlot with
  | none => exact roomy_of_early (.inr (stage_enter .done _))
  | some list =>
    dsimp only
    rw [Talk.bind_eq, Talk.hold_bind]
    dsimp only
    split
    · refine roomy_of_early (.inl ?_)
      rw [(follow_stays list state).hold, browsing]
    · exact pick_roomy tame list state

/-- Choosing a form leaves room. -/
theorem chooseForm_roomy (room : state.result speciesResult ≤ lastOption) :
    (RecruitMenu.chooseForm state).Always fun after _ => Roomy after := by
  simp only [RecruitMenu.chooseForm, RecruitMenu.askGender, Talk.bind_eq, Talk.pure_eq_done,
    Talk.request, Talk.bind]
  intro gender
  dsimp only
  split
  · exact roomy_commit (lt_maxValue room)
  · rintro (_ | window)
    · exact fun _ => roomy_commit (lt_maxValue room)
    · exact roomy_of_room room

/-- An answer of the gender menu leaves room. -/
theorem answered_roomy (choice : Int32) (room : state.result speciesResult ≤ lastOption) :
    (RecruitMenu.answered choice state).Always fun after _ => Roomy after := by
  have kept := result_answered choice state
  unfold RecruitMenu.answered
  dsimp only
  split
  · simp only [backOut, Talk.bind_eq, Talk.pure_eq_done, Talk.always_bind, Talk.always_done]
    refine (closeGender_passing _).mono fun _ _ _ => (resumeList_passing _).mono fun _ _ _ => ?_
    exact roomy_of_early (.inl (stage_enter .browse _))
  · split
    · refine roomy_commit ?_
      rw [MenuState.result_setResult, if_pos rfl, kept]
      exact (secondForm_option room).2
    · exact roomy_commit (kept ▸ lt_maxValue room)

/-- Waiting for an answer leaves room. -/
theorem awaitGender_roomy (room : state.result speciesResult ≤ lastOption) :
    (RecruitMenu.awaitGender state).Always fun after _ => Roomy after := by
  unfold RecruitMenu.awaitGender
  cases state.windows.get genderSlot with
  | none => exact answered_roomy 0 room
  | some window =>
    rintro (_ | _)
    · exact fun choice => answered_roomy choice room
    · exact roomy_of_room room

/-- A stage that goes on leaves the room that its talk leaves. -/
theorem goingOn_roomy {talk : Talk MenuState} (roomy : Roomy (talk.hold cx).value) :
    Roomy ((RecruitMenu.goingOn talk).hold cx).value.2 := by
  rw [RecruitMenu.goingOn, Talk.bind_eq, Talk.hold_bind]
  exact roomy

/-- Every stage of the menu leaves room on a tame host. -/
theorem update_roomy (tame : Tame cx.host) (roomy : Roomy state) :
    Roomy ((RecruitMenu.update state).hold cx).value.2 := by
  unfold RecruitMenu.update
  cases stage : Stage.ofProgress state.progress with
  | browse => exact goingOn_roomy (browse_roomy tame stage)
  | chooseForm => exact goingOn_roomy ((chooseForm_roomy (roomy.choosing stage)).hold cx)
  | awaitGender => exact goingOn_roomy ((awaitGender_roomy (roomy.waiting stage)).hold cx)
  | commit => exact goingOn_roomy (roomy_of_early (.inr (commit_enlists state cx).1))
  | done => exact roomy

end

end DungeonHooks.Checked.Recruit
