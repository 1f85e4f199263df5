import DungeonHooks.Menu.Keyboard

/-! The recruit menu: choose a species from a list, then a gender if there is one to choose, and the monster joins. -/

namespace DungeonHooks.RecruitMenu

/-- The species listed; option `n` is species `n + 1`. -/
def speciesCount : Nat := 534

/-- The distance from a species to its second form. -/
def secondFormOffset : Int32 := 600

/-- The roster slots searched for a free one. -/
def rosterLimit : Nat := 0x214

/-- The dungeon recorded as the place where a recruit joined. -/
def joinedAt : UInt16 := 0xAF

/-- The strings of the two genders, with the results of choosing them. -/
def genderOptions : List SimpleMenuOption :=
  [{ stringId := 15531, resultValue := 1 }, { stringId := 15532, resultValue := 2 }]

/-- The slot of the species list. -/
def listSlot : Fin menuSlots := ⟨0, by decide⟩

/-- The slot of the portrait box. -/
def portraitSlot : Fin menuSlots := ⟨1, by decide⟩

/-- The slot of the gender menu. -/
def genderSlot : Fin menuSlots := ⟨2, by decide⟩

/-- The remembered option of the species list. -/
def speciesResult : Fin menuSlots := ⟨0, by decide⟩

/-- The remembered answer of the gender menu. -/
def genderResult : Fin menuSlots := ⟨2, by decide⟩

/-- Where a session stands. -/
inductive Stage where
  | browse
  | chooseForm
  | awaitGender
  | commit
  | done
  deriving DecidableEq, Inhabited

/-- The progress marker of a stage. -/
def Stage.progress : Stage → Int32
  | .browse => 0
  | .chooseForm => 1
  | .awaitGender => 2
  | .commit => 3
  | .done => -1

/-- The stage of a progress marker; one that marks no stage is the end. -/
def Stage.ofProgress (progress : Int32) : Stage :=
  if progress == 0 then .browse
  else if progress == 1 then .chooseForm
  else if progress == 2 then .awaitGender
  else if progress == 3 then .commit
  else .done

/-- Goes on to a stage. -/
def enter (stage : Stage) (state : MenuState) : MenuState :=
  { state with progress := stage.progress }

/-- Ends the session with a value. -/
def finish (value : Int32) (state : MenuState) : MenuState :=
  enter .done { state with returnValue := value }

/-- Puts a window into a slot, or empties it. -/
def setWindow (slot : Fin menuSlots) (window : Option WindowId) (state : MenuState) : MenuState :=
  { state with windows := state.windows.put slot window }

/-- The label of an option: the name of its species, in colour. -/
def label (names : Int32 → String) (option : Nat) : String :=
  s!"[CS:K]{names (Int32.ofNat option + 1)}[CR]"

/-- The list of all species. -/
def speciesList : AdvancedMenu where
  xOffset := 2
  yOffset := 2
  flags :=
    { aAccept := true, bCancel := true, seOn := true, partialMenu := true, menuLowerBar := true,
      noAcceptButton := true }
  optionCount := speciesCount
  optionsPerPage := 8
  entry := label

/-- The menu of the two genders. -/
def genderMenu : SimpleMenu where
  xOffset := 16
  yOffset := 10
  width := 10
  flags := { aAccept := true, bCancel := true, seOn := true }
  options := genderOptions

/-- The portrait at the start: the first species. -/
def firstPortrait : Portrait :=
  { monsterId := 1, layout := 4, offset := (2, -3) }

/-- Shows the portrait, if its box could be opened. -/
def showPortrait (state : MenuState) : Talk Unit :=
  match state.windows.get portraitSlot with
  | some box => Talk.request (.showPortrait box state.portrait)
  | none => pure ()

/-- Opens the species list and the portrait box. -/
def create (state : MenuState) : Talk MenuState := do
  let list ← Talk.request (.createAdvancedMenu speciesList)
  let portrait ← Talk.request (.createPortraitBox 0 3 true)
  let state := { state with portrait := firstPortrait }
  let state := setWindow portraitSlot portrait (setWindow listSlot list state)
  -- Either window may have been refused; the stages find that out from its slot.
  showPortrait state
  return state

/-- Lets the portrait follow the cursor. -/
def follow (list : WindowId) (state : MenuState) : Talk MenuState := do
  let hovered ← Talk.request (.advancedMenuOption list)
  if hovered == state.previousOption then return state
  else
    -- Options count from zero, species from one.
    let portrait := { state.portrait with monsterId := hovered + 1 }
    let state := { state with previousOption := hovered, portrait }
    showPortrait state
    return state

/-- Takes what the list was closed with: an option, or a cancel, which ends the session. -/
def pick (list : WindowId) (state : MenuState) : Talk MenuState := do
  let choice ← Talk.request (.advancedMenuResult list)
  let state := state.setResult speciesResult choice
  return if choice < 0 then finish (-1) state else enter .chooseForm state

/-- Follows the cursor until an option is picked or the list is cancelled. -/
def browse (state : MenuState) : Talk MenuState :=
  match state.windows.get listSlot with
  | none => do
    Talk.request (.record .menus .error "Recruit menu has no species list open")
    return finish (-1) state
  | some list => do
    let active ← Talk.request (.advancedMenuActive list)
    if active then follow list state else pick list state

/-- The species chosen so far. -/
def chosen (state : MenuState) : Int32 :=
  state.result speciesResult + 1

/-- Opens the gender menu; if none can be opened, the species joins as it is. -/
def askGender (state : MenuState) : Talk MenuState := do
  let window ← Talk.request (.createSimpleMenu genderMenu)
  match window with
  | some window => return enter .awaitGender (setWindow genderSlot window state)
  | none =>
    Talk.request (.record .menus .error
      s!"Recruit menu could not open a gender menu; recruiting species {(chosen state).toInt}")
    return enter .commit state

/-- Asks for the gender, unless the species has only one form. -/
def chooseForm (state : MenuState) : Talk MenuState := do
  let gender ← Talk.request (.monsterGender (chosen state + secondFormOffset))
  if gender == .invalid then return enter .commit state else askGender state

/-- Closes the gender menu. It may not be needed again, so its slot is emptied here. -/
def closeGender (state : MenuState) : Talk Unit :=
  match state.windows.get genderSlot with
  | some window => Talk.request (.closeSimpleMenu window)
  | none => pure ()

/-- Lets the species list wait for input again. -/
def resumeList (state : MenuState) : Talk Unit :=
  match state.windows.get listSlot with
  | some list => Talk.request (.resumeAdvancedMenu list)
  | none => pure ()

/-- Goes back from the gender menu to the species list. -/
def backOut (state : MenuState) : Talk MenuState := do
  closeGender state
  resumeList state
  return enter .browse (setWindow genderSlot none state)

/-- Acts on the answer of the gender menu; the second option selects the second form. -/
def answered (choice : Int32) (state : MenuState) : Talk MenuState :=
  let state := state.setResult genderResult choice
  -- A cancel goes back to the list, with the answer of this time remembered.
  if choice ≤ 0 then backOut state
  else if choice == 2 then
    let second := state.result speciesResult + secondFormOffset
    return enter .commit (state.setResult speciesResult second)
  else return enter .commit state

/-- Waits for a gender. Without a gender menu it is a cancel. -/
def awaitGender (state : MenuState) : Talk MenuState :=
  match state.windows.get genderSlot with
  | none => answered 0 state
  | some window => do
    let active ← Talk.request (.simpleMenuActive window)
    if active then return state
    else
      let choice ← Talk.request (.simpleMenuResult window)
      answered choice state

/-- A recruit that has just joined. -/
def newcomer (species : Int32) (name : String) : Recruit :=
  { species, name, joinedAt, joinedAtFloor := 1, level := 1 }

/-- Writes the recruit into the first free roster slot and returns the slot, or -2 if there is none. -/
def commit (state : MenuState) : Talk MenuState := do
  let species := chosen state
  let free ← Talk.request (.firstEmptySlot rosterLimit)
  -- Only a free slot is followed by anything that changes the roster.
  match free with
  | some slot =>
    let known ← Talk.request (.monsterName species)
    let name := Text.cut nameLength known
    Talk.request (.recruit slot (newcomer species name))
    Talk.request (.setJoined species)
    Talk.request (.record .menus .info
      s!"Recruited {name} ({species.toInt}) into roster slot {slot}")
    return finish (Int32.ofNat slot) state
  | none =>
    Talk.request (.record .menus .warn s!"No roster space for monster {species.toInt}")
    return finish (-2) state

/-- A stage that is not the last goes on with the session. -/
def goingOn (talk : Talk MenuState) : Talk (Bool × MenuState) := do
  let state ← talk
  return (false, state)

/-- Runs one stage; the session is over when it starts a frame at the end. -/
def update (state : MenuState) : Talk (Bool × MenuState) :=
  match Stage.ofProgress state.progress with
  | .browse => goingOn (browse state)
  | .chooseForm => goingOn (chooseForm state)
  | .awaitGender => goingOn (awaitGender state)
  | .commit => goingOn (commit state)
  | .done => return (true, state)

/-- Empties a slot and closes the window it held. -/
def closeSlot (slot : Fin menuSlots) (close : WindowId → Talk Unit) (state : MenuState) :
    Talk MenuState :=
  match state.windows.get slot with
  | some window => do
    -- The slot is emptied together with its window, so nothing is closed twice.
    close window
    return setWindow slot none state
  | none => return state

/-- Closes the windows that are still open. -/
def close (state : MenuState) : Talk MenuState := do
  let state ← closeSlot listSlot (fun window => Talk.request (.closeAdvancedMenu window)) state
  let state ← closeSlot portraitSlot (fun window => Talk.request (.closePortraitBox window)) state
  closeSlot genderSlot (fun window => Talk.request (.closeSimpleMenu window)) state

end DungeonHooks.RecruitMenu

namespace DungeonHooks

/-- Recruits any monster into the roster: returns its slot, -1 after a cancel, -2 without space. -/
def TalkingMenu.recruit : TalkingMenu where
  create _ := RecruitMenu.create
  update _ := RecruitMenu.update
  close _ := RecruitMenu.close

/-- The recruit menu on a host. -/
def Menu.recruit {σ : Type} [Host σ] : Menu σ :=
  TalkingMenu.recruit.menu

end DungeonHooks
