import DungeonHooks.Proofs.Menu.Recruit.Stages
import DungeonHooks.Proofs.Replay.Recruit.Desk
import DungeonHooks.Proofs.Replay.MenuWindows
import DungeonHooks.Proofs.Replay.Recruit.Roster

/-! What the stages of a recruit session do to the desk on the simulated host. -/

namespace DungeonHooks.Replay

open RecruitMenu

/-- The windows of a session are in their slots, and their handles did not repeat when they were given out. -/
structure Slotted (first closed : Nat) (asked : Bool) (slots : WindowSlots) : Prop where
  list : slots.get listSlot = some (handle first 0)
  portrait : slots.get portraitSlot = some (handle first 1)
  gender : slots.get genderSlot = if asked then some (handle first (2 + closed)) else none
  fits : 2 + closed + asked.toNat ≤ UInt32.size

/-- The windows of a desk are in their slots. -/
abbrev Desk.Slotted (desk : Desk) (world : SimulatedHost) (slots : WindowSlots) : Prop :=
  Replay.Slotted world.nextWindow desk.closed desk.gender.isSome slots

/-- A gender menu that is open is in its slot. -/
theorem Desk.Slotted.menu {desk : Desk} {world : SimulatedHost} {slots : WindowSlots}
    {answer : Option Int32} (slotted : desk.Slotted world slots)
    (asked : desk.gender = some answer) :
    slots.get genderSlot = some (desk.menuHandle world.nextWindow) := by
  rw [slotted.gender, asked]
  rfl

/-- A session stands at a stage, with the windows of its desk in their slots and on the host. -/
structure Seated (world : SimulatedHost) (stage : Stage) (desk : Desk) (state : MenuState)
    (host : SimulatedHost) : Prop where
  stage : Stage.ofProgress state.progress = stage
  slotted : desk.Slotted world state.windows
  host : host = desk.on world

/-- A session begins with list and portrait box, and with the input that was queued for it. -/
theorem create_seated {world : SimulatedHost} (id : Int32) (bare : world.windows = [])
    (idle : world.input = {}) (choices : List ListChoice) (answers : List Int32) :
    Talk.Leads (· = world.queueInput { advanced := choices, simple := answers })
      (create { activeMenu := some id }) fun after host =>
        ∃ portraits, Seated world .browse { choices, answers, portraits } after host := by
  -- The two windows are opened one after the other, and only then stand in their slots.
  let bareDesk : Desk := { choices, answers, portraits := world.portraitsShown }
  let listed : SimulatedHost := { world with
    windows := [(handle world.nextWindow 0, .opened .advanced)]
    nextWindow := world.nextWindow + 1
    input := { advanced := choices, simple := answers } }
  have opensList : Talk.Leads (· = world.queueInput { advanced := choices, simple := answers })
      (Talk.request (.createAdvancedMenu speciesList)) fun list host =>
        list = some (handle world.nextWindow 0) ∧ host = listed := by
    refine Talk.leads_request fun cx shown => ?_
    simp [Request.serve, Context.call, Host.createAdvancedMenu, shown, SimulatedHost.opening,
      SimulatedHost.openWindow, SimulatedHost.queueInput, PlayerInput.append, bare, idle, listed,
      handle]
  have opensBox : Talk.Leads (· = listed) (Talk.request (.createPortraitBox 0 3 true))
      fun box host => box = some (handle world.nextWindow 1) ∧ host = bareDesk.on world := by
    refine Talk.leads_request fun cx shown => ?_
    simp [Request.serve, Context.call, Host.createPortraitBox, shown, SimulatedHost.opening,
      SimulatedHost.openWindow, listed, bareDesk, handle, Desk.on, Desk.windows, Desk.menus,
      Desk.list, Desk.opened, Window.opened]
  simp only [create, Talk.bind_eq]
  refine opensList.bind fun list => Talk.leads_given fun opened => ?_
  refine opensBox.bind fun box => Talk.leads_given fun boxed => ?_
  rw [opened, boxed]
  refine (Desk.shows_portrait _ _).bind fun _ => Talk.leads_done fun host shown => ?_
  refine ⟨_, rfl, ⟨?_, ?_, ?_, (by decide : 2 ≤ UInt32.size)⟩, shown⟩
  all_goals
    simp [setWindow, WindowSlots.get_put, listSlot, portraitSlot, genderSlot]

section Stages

variable {world : SimulatedHost} {desk : Desk} {state : MenuState}
  (slotted : desk.Slotted world state.windows)

include slotted

/-- While the list waits, the portrait follows the cursor. -/
theorem browse_waits (browsing : Stage.ofProgress state.progress = .browse)
    (waits : desk.waits = true) :
    Talk.Leads (· = desk.on world) (browse state) fun after host =>
      ∃ portraits, Seated world .browse { desk with portraits } after host := by
  simp only [browse, slotted.list, Talk.bind_eq]
  refine Desk.asks_active.bind fun active => Talk.leads_given fun answer => ?_
  rw [answer, if_pos waits]
  simp only [follow, Talk.bind_eq]
  refine Desk.asks_option.bind fun hovered => Talk.leads_given fun answer => ?_
  split
  · exact Talk.leads_done fun host shown => ⟨desk.portraits, browsing, slotted, shown⟩
  · -- A cursor that has moved on is followed by the portrait.
    simp only [showPortrait, slotted.portrait]
    refine (Desk.shows_portrait _ _).bind fun _ => Talk.leads_done fun host shown => ?_
    exact ⟨desk.portraits ++ [hovered + 1], browsing, slotted, shown⟩

/-- A list that is closed with an option goes on to its forms, one that is cancelled ends the session. -/
theorem browse_closed (closed : desk.waits = false) :
    Talk.Leads (· = desk.on world) (browse state) fun after host =>
      if desk.picked < 0 then Seated world .done desk after host ∧ after.returnValue = -1
      else Seated world .chooseForm desk after host ∧ after.result speciesResult = desk.picked := by
  simp only [browse, slotted.list, Talk.bind_eq]
  refine Desk.asks_active.bind fun active => Talk.leads_given fun answer => ?_
  rw [answer, if_neg (by simp [closed])]
  simp only [pick, Talk.bind_eq]
  refine Desk.asks_result.bind fun choice => Talk.leads_given fun answer => ?_
  rw [answer]
  refine Talk.leads_done fun host shown => ?_
  split
  · exact ⟨⟨stage_enter .., slotted, shown⟩, rfl⟩
  · exact ⟨⟨stage_enter .., slotted, shown⟩,
      (MenuState.result_setResult ..).trans (if_pos rfl)⟩

/-- A species of one form is ready for the commit. -/
theorem chooseForm_single
    (single : world.genderOf (chosen state + secondFormOffset) = .invalid) :
    Talk.Leads (· = desk.on world) (chooseForm state) fun after host =>
      Seated world .commit desk after host ∧ chosen after = chosen state := by
  simp only [chooseForm, Talk.bind_eq]
  refine Desk.asks_gender.bind fun gender => Talk.leads_given fun answer => ?_
  rw [answer, single, if_pos (by rfl)]
  exact Talk.leads_done fun host shown => ⟨⟨stage_enter .., slotted, shown⟩, rfl⟩

/-- A species of two forms has its gender asked for. -/
theorem chooseForm_dual (alone : desk.gender = none) (room : desk.opened < UInt32.size)
    (dual : world.genderOf (chosen state + secondFormOffset) ≠ .invalid) :
    Talk.Leads (· = desk.on world) (chooseForm state) fun after host =>
      Seated world .awaitGender { desk with gender := some none } after host ∧
        after.result speciesResult = state.result speciesResult := by
  simp only [chooseForm, Talk.bind_eq]
  refine Desk.asks_gender.bind fun gender => Talk.leads_given fun answer => ?_
  rw [answer, if_neg (by simpa using dual)]
  -- The menu that is opened is put into the slot for it, next to the other two.
  simp only [askGender, Talk.bind_eq]
  refine (Desk.opens_menu alone).bind fun window => Talk.leads_given fun opened => ?_
  rw [opened]
  refine Talk.leads_done fun host shown => ⟨⟨stage_enter .., ⟨?_, ?_, ?_, ?_⟩, shown⟩, rfl⟩
  · exact (WindowSlots.get_put ..).trans slotted.list
  · exact (WindowSlots.get_put ..).trans slotted.portrait
  · exact WindowSlots.get_put ..
  · simpa [Desk.opened, alone] using Nat.succ_le_of_lt room

/-- What an answer leads to, waiting for one leads to once it is there. -/
theorem awaitGender_leads {answer : Int32} (asked : desk.gender = some (some answer))
    {post : MenuState → SimulatedHost → Prop}
    (leads : Talk.Leads (· = desk.on world) (answered answer state) post) :
    Talk.Leads (· = desk.on world) (awaitGender state) post := by
  have menu := slotted.menu asked
  simp only [awaitGender, menu, Talk.bind_eq]
  refine (Desk.asks_menu_active asked slotted.fits).bind fun active =>
    Talk.leads_given fun waits => ?_
  -- A menu with an answer waits no more.
  rw [waits, if_neg (by simp)]
  refine (Desk.asks_menu_result asked slotted.fits).bind fun choice =>
    Talk.leads_given fun chose => ?_
  rw [chose]
  exact leads

/-- Backing out of the gender menu closes it, and lets the list wait again. -/
theorem backOut_seated {answer : Option Int32} (asked : desk.gender = some answer) :
    Talk.Leads (· = desk.on world) (backOut state) fun after host =>
      Seated world .browse
        { desk with waits := true, gender := none, closed := desk.closed + 1 } after host := by
  have menu := slotted.menu asked
  simp only [backOut, closeGender, menu, resumeList, slotted.list, Talk.bind_eq]
  -- What is open on the desk is in its slot, so both requests find their windows.
  refine (Desk.closes_menu asked slotted.fits).bind fun _ => ?_
  refine (Desk.resumes_list rfl).bind fun _ => Talk.leads_done fun host shown => ?_
  refine ⟨stage_enter .., ⟨?_, ?_, ?_, ?_⟩, shown⟩
  · exact (WindowSlots.get_put ..).trans slotted.list
  · exact (WindowSlots.get_put ..).trans slotted.portrait
  · exact WindowSlots.get_put ..
  · have fits := slotted.fits
    simp only [asked, Option.isSome_some, Option.isSome_none, Bool.toNat_true,
      Bool.toNat_false] at fits ⊢
    omega

/-- An answer that is a cancel goes back to the list. -/
theorem awaitGender_backs {answer : Int32} (asked : desk.gender = some (some answer))
    (backs : answer ≤ 0) :
    Talk.Leads (· = desk.on world) (awaitGender state) fun after host =>
      Seated world .browse
        { desk with waits := true, gender := none, closed := desk.closed + 1 } after host := by
  refine awaitGender_leads slotted asked ?_
  rw [answered, if_pos (by exact backs)]
  -- Remembering the answer moves no window.
  have remembered : desk.Slotted world (state.setResult genderResult answer).windows := slotted
  exact backOut_seated remembered asked

/-- The species that an option and a gender stand for: the second gender is that of the second form. -/
def formChosen (option gender : Int32) : Int32 :=
  (if gender = 2 then option + secondFormOffset else option) + 1

/-- An answer that is a gender is ready for the commit. -/
theorem awaitGender_chooses {answer : Int32} (asked : desk.gender = some (some answer))
    (chooses : 0 < answer) :
    Talk.Leads (· = desk.on world) (awaitGender state) fun after host =>
      Seated world .commit desk after host ∧
        chosen after = formChosen (state.result speciesResult) answer := by
  -- The answer is remembered in another slot than the species.
  have kept : (state.setResult genderResult answer).result speciesResult =
      state.result speciesResult :=
    (MenuState.result_setResult ..).trans (if_neg (by decide))
  refine awaitGender_leads slotted asked ?_
  rw [answered, if_neg (Int32.not_le.mpr chooses), formChosen]
  simp only [beq_iff_eq]
  -- The second gender moves the remembered option to the second form.
  split
  · refine Talk.leads_done fun host shown => ⟨⟨stage_enter .., slotted, shown⟩, ?_⟩
    rw [← kept]
    exact congrArg (· + 1) ((MenuState.result_setResult ..).trans (if_pos rfl))
  · exact Talk.leads_done fun host shown =>
      ⟨⟨stage_enter .., slotted, shown⟩, congrArg (· + 1) kept⟩

/-- A commit writes the species into the roster, if there is room, and tells where. -/
theorem commit_seated :
    Talk.Leads (· = desk.on world) (commit state) fun after host => ∃ filled,
      Enlists (chosen state) world filled after.returnValue ∧
        Seated filled .done desk after host := by
  simp only [commit, Talk.bind_eq]
  refine Desk.asks_slot.bind fun free => Talk.leads_given fun found => ?_
  -- What the host found decides whether anything is written.
  cases free with
  | some slot =>
    refine Desk.asks_name.bind fun name => Talk.leads_given fun known => ?_
    rw [known]
    refine Desk.enlists.bind fun _ => Desk.marks.bind fun _ => Desk.records.bind fun _ => ?_
    obtain ⟨below, free, taken⟩ := firstFree_found found.symm
    let filled : SimulatedHost := { world with
      roster := world.roster.insert slot
        (newcomer (chosen state) (Text.cut nameLength (world.nameOf (chosen state))))
      joined := world.joined ++ [chosen state] }
    refine Talk.leads_done fun host shown => ⟨filled, .joined ⟨?_, free, ?_⟩ rfl rfl,
      stage_enter .., slotted, shown⟩
    · rwa [Nat.zero_add] at below
    · exact fun lower less => taken lower (Nat.zero_le _) less
  | none =>
    have full := firstFree_full found.symm
    refine Desk.records.bind fun _ => Talk.leads_done fun host shown =>
      ⟨world, .full (fun slot below => ?_) ⟨rfl, rfl⟩, stage_enter .., slotted, shown⟩
    exact full slot (Nat.zero_le _) (by rwa [Nat.zero_add])

end Stages

section Closing

variable {host : SimulatedHost} {id : WindowId} {kind : WindowKind} {window : Window}
  {rest : List (WindowId × Window)} {state : MenuState}

/-- The host with other windows open. -/
def SimulatedHost.showing (host : SimulatedHost) (windows : List (WindowId × Window)) :
    SimulatedHost :=
  { host with windows }

/-- Closing the first window leaves those behind it. -/
theorem closeWindow_first (own : window.kind = kind) (unlike : ∀ entry ∈ rest, entry.1 ≠ id) :
    (SimulatedHost.closeWindow kind id (host.showing ((id, window) :: rest))).host =
      host.showing rest := by
  have found : ((host.showing ((id, window) :: rest)).window? kind id).isSome = true := by
    simp [SimulatedHost.window?, SimulatedHost.anyWindow?, SimulatedHost.showing, own]
  -- All windows with the handle are removed, and this is the only one.
  have kept : rest.filter (·.1 != id) = rest :=
    List.filter_eq_self.mpr fun entry member => bne_iff_ne.mpr (unlike entry member)
  rw [SimulatedHost.closeWindow, if_pos found]
  simp [Reply.still, SimulatedHost.showing, kept]

/-- A slot that holds the first window is emptied together with it. -/
theorem closeSlot_first {slot : Fin menuSlots} {closing : WindowId → Talk Unit}
    (holds : state.windows.get slot = some id) (closes : Closes kind closing)
    (own : window.kind = kind) (unlike : ∀ entry ∈ rest, entry.1 ≠ id) :
    Talk.Leads (· = host.showing ((id, window) :: rest)) (closeSlot slot closing state)
      fun after left => after = setWindow slot none state ∧ left = host.showing rest := by
  have emptied : Talk.Leads (· = host.showing ((id, window) :: rest)) (closing id)
      fun _ left => left = host.showing rest := by
    intro cx shown
    rw [closes id cx, shown]
    exact closeWindow_first own unlike
  simp only [closeSlot, holds, Talk.bind_eq]
  exact emptied.bind fun _ => Talk.leads_done fun _ left => ⟨rfl, left⟩

/-- Closing the gender menu leaves no window, and neither does it if there is none. -/
theorem closeSlot_menu {world : SimulatedHost} {desk : Desk}
    (holds : state.windows.get genderSlot =
      if desk.gender.isSome then some (desk.menuHandle world.nextWindow) else none) :
    Talk.Leads (· = host.showing (desk.menus world.nextWindow))
      (closeSlot genderSlot (fun window => Talk.request (.closeSimpleMenu window)) state)
      fun after left => after.returnValue = state.returnValue ∧ left = host.showing [] := by
  unfold Desk.menus
  cases asked : desk.gender with
  | none =>
    rw [asked] at holds
    simp only [closeSlot, holds, Option.map_none]
    exact Talk.leads_done fun _ left => ⟨rfl, left⟩
  | some answer =>
    rw [asked] at holds
    have kind : (Desk.menu answer).kind = .simple := by cases answer <;> rfl
    exact (closeSlot_first holds (fun _ _ => rfl) kind (by simp)).weaken
      fun after left cleared => ⟨by rw [cleared.1]; rfl, cleared.2⟩

/-- Closing a session closes all windows of its desk. -/
theorem close_clears {world : SimulatedHost} {desk : Desk}
    (slotted : desk.Slotted world state.windows) :
    Talk.Leads (· = desk.on world) (close state) fun after host =>
      after.returnValue = state.returnValue ∧ host = (desk.on world).showing [] := by
  -- The windows are closed from the first to the last, each with a handle of its own.
  have later {index : Nat} (before : index < 2) :
      ∀ entry ∈ desk.menus world.nextWindow, entry.1 ≠ handle world.nextWindow index := by
    intro entry member
    simp only [Desk.menus, Option.mem_toList, Option.map_eq_some_iff] at member
    obtain ⟨answer, asked, rfl⟩ := member
    exact Desk.menuHandle_ne asked slotted.fits before
  have box : handle world.nextWindow 1 ≠ handle world.nextWindow 0 :=
    handle_ne _ (by omega) (by decide) (by decide)
  have closesList : Closes .advanced fun window => Talk.request (.closeAdvancedMenu window) :=
    fun _ _ => rfl
  have closesBox : Closes .portrait fun window => Talk.request (.closePortraitBox window) :=
    fun _ _ => rfl
  have listed := @closeSlot_first (desk.on world) _ _ desk.list
    ((handle world.nextWindow 1, .opened .portrait) :: desk.menus world.nextWindow) _ _ _
    slotted.list closesList rfl (List.forall_mem_cons.mpr ⟨box, later Nat.zero_lt_two⟩)
  -- Emptying a slot leaves the others as they are.
  have portrait : (setWindow listSlot none state).windows.get portraitSlot =
      some (handle world.nextWindow 1) :=
    (WindowSlots.get_put ..).trans slotted.portrait
  have gender : (setWindow portraitSlot none (setWindow listSlot none state)).windows.get
      genderSlot = if desk.gender.isSome then some (desk.menuHandle world.nextWindow) else none :=
    (WindowSlots.get_put ..).trans ((WindowSlots.get_put ..).trans slotted.gender)
  have boxed := @closeSlot_first (desk.on world) _ _ (.opened .portrait)
    (desk.menus world.nextWindow) _ _ _ portrait closesBox rfl (later Nat.one_lt_two)
  simp only [close, Talk.bind_eq]
  refine listed.bind fun after => Talk.leads_given fun listless => ?_
  rw [listless]
  refine boxed.bind fun after => Talk.leads_given fun boxless => ?_
  rw [boxless]
  exact closeSlot_menu gender

end Closing

end DungeonHooks.Replay
