import DungeonHooks.Proofs.Replay.Panes

/-! The windows of a recruit session as they stand on the simulated host, and what input and requests do to them. -/

namespace DungeonHooks.Replay

open RecruitMenu

namespace SimulatedHost

/-- Without a text, a frame of input is for the windows alone. -/
theorem advanceFrame_silent {host : SimulatedHost} (silent : host.input.keyboard = []) :
    host.advanceFrame = { host with
      input := (deliverAll host.input host.windows).1
      windows := (deliverAll host.input host.windows).2 } := by
  have untyped := (deliverAll_keyboard host.input host.windows).trans silent
  unfold advanceFrame
  cases keyboard : host.keyboard with
  | none => rfl
  | some session =>
    -- A keyboard that waits finds nothing, one that is done takes nothing.
    have still : ∀ input : PlayerInput, input.keyboard = [] →
        deliverText input session = (input, session) := by
      intro input untyped
      simp only [deliverText, untyped]
      split <;> rfl
    simp only [still _ untyped]

end SimulatedHost

/-- The handle of a window of a session, by the handles that were given out before it. -/
def handle (first index : Nat) : WindowId :=
  ⟨Int32.ofNat (first + index)⟩

/-- Two windows of a session have different handles, as long as handles do not repeat. -/
theorem handle_ne (first : Nat) {index other : Nat} (unlike : index ≠ other)
    (fits : index < UInt32.size) (fits' : other < UInt32.size) :
    handle first index ≠ handle first other := by
  intro same
  -- A handle is the low word of a number, and the two numbers lie less than a word apart.
  have words : Int32.ofNat (first + index) = Int32.ofNat (first + other) :=
    congrArg WindowId.id same
  have bits : (first + index) % UInt32.size = (first + other) % UInt32.size := by
    simpa using congrArg (·.toBitVec.toNat) words
  simp only [UInt32.size] at *
  omega

/-- The windows of a recruit session, and the input that is still to come to it. -/
structure Desk where
  /-- Whether the list waits for a choice. -/
  waits : Bool := true
  /-- What the list was closed with last. -/
  picked : Int32 := 0
  /-- The option of the list that the cursor is on. -/
  option : Int32 := 0
  /-- The gender menu, if one is open, and the answer to it, once there is one. -/
  gender : Option (Option Int32) := none
  /-- The gender menus that were closed before. -/
  closed : Nat := 0
  choices : List ListChoice
  answers : List Int32
  /-- The portraits that the host has shown so far. -/
  portraits : List Int32

namespace Desk

/-- The list of a desk. -/
def list (desk : Desk) : Window where
  kind := .advanced
  active := desk.waits
  result := desk.picked
  currentOption := desk.option

/-- A gender menu, by its answer. -/
def menu : Option Int32 → Window
  | none => .opened .simple
  | some answer => { kind := .simple, active := false, result := answer }

/-- The handle of the gender menu that is open, or that is opened next. -/
def menuHandle (desk : Desk) (first : Nat) : WindowId :=
  handle first (2 + desk.closed)

/-- The gender menu, if one is open. -/
def menus (desk : Desk) (first : Nat) : List (WindowId × Window) :=
  (desk.gender.map fun answer => (desk.menuHandle first, menu answer)).toList

/-- The open windows: the list, the portrait box, and a gender menu if there is one. -/
def windows (desk : Desk) (first : Nat) : List (WindowId × Window) :=
  (handle first 0, desk.list) :: (handle first 1, .opened .portrait) :: desk.menus first

/-- The windows opened so far. -/
def opened (desk : Desk) : Nat :=
  2 + desk.closed + desk.gender.isSome.toNat

/-- The host with a desk on it. All that is not on the desk is as it was when the session began. -/
def on (desk : Desk) (world : SimulatedHost) : SimulatedHost :=
  { world with
    windows := desk.windows world.nextWindow
    nextWindow := world.nextWindow + desk.opened
    input := { advanced := desk.choices, simple := desk.answers }
    portraitsShown := desk.portraits }

variable {desk : Desk} {world : SimulatedHost}

section Input

/-- The cursor of a list that waits visits the next option. -/
theorem advance_hover {option result : Int32} {hover : List Int32} {later : List ListChoice}
    (waits : desk.waits = true) (alone : desk.gender = none)
    (ahead : desk.choices = ⟨option :: hover, result⟩ :: later) :
    (desk.on world).advanceFrame =
      { desk with option, choices := ⟨hover, result⟩ :: later }.on world := by
  rw [SimulatedHost.advanceFrame_silent rfl]
  simp [on, windows, menus, list, opened, waits, alone, ahead, SimulatedHost.deliverAll,
    SimulatedHost.deliver, Window.opened]

/-- A list that waits is closed once its cursor has visited all its options. -/
theorem advance_pick {result : Int32} {later : List ListChoice}
    (waits : desk.waits = true) (alone : desk.gender = none)
    (ahead : desk.choices = ⟨[], result⟩ :: later) :
    (desk.on world).advanceFrame =
      { desk with waits := false, picked := result, choices := later }.on world := by
  rw [SimulatedHost.advanceFrame_silent rfl]
  simp [on, windows, menus, list, opened, waits, alone, ahead, SimulatedHost.deliverAll,
    SimulatedHost.deliver, Window.opened]

/-- A gender menu that waits takes the next answer. -/
theorem advance_answer {answer : Int32} {later : List Int32} (closed : desk.waits = false)
    (asked : desk.gender = some none) (ahead : desk.answers = answer :: later) :
    (desk.on world).advanceFrame =
      { desk with gender := some (some answer), answers := later }.on world := by
  -- The list comes first among the windows, and takes no input while it is closed.
  rw [SimulatedHost.advanceFrame_silent rfl]
  simp [on, windows, menus, list, opened, closed, asked, ahead, menu, menuHandle,
    SimulatedHost.deliverAll, SimulatedHost.deliver, Window.opened]

/-- A desk where nothing waits takes no input. -/
theorem advance_still (closed : desk.waits = false) (settled : desk.gender ≠ some none) :
    (desk.on world).advanceFrame = desk.on world := by
  rw [SimulatedHost.advanceFrame_silent rfl]
  -- A gender menu that is open has its answer already.
  rcases gender : desk.gender with _ | _ | answer
  · simp [on, windows, menus, list, opened, closed, gender, SimulatedHost.deliverAll,
      SimulatedHost.deliver, Window.opened]
  · exact absurd gender settled
  · simp [on, windows, menus, list, opened, closed, gender, menu, SimulatedHost.deliverAll,
      SimulatedHost.deliver, Window.opened]

end Input

section Windows

/-- The gender menu has another handle than list and portrait box. -/
theorem menuHandle_ne {answer : Option Int32} (asked : desk.gender = some answer)
    (fits : desk.opened ≤ UInt32.size) {first index : Nat} (before : index < 2) :
    desk.menuHandle first ≠ handle first index := by
  simp only [opened, asked, Option.isSome_some, Bool.toNat_true] at fits
  exact handle_ne _ (by omega) (by omega) (by omega)

/-- The list is found under its handle. -/
theorem window_list : (desk.on world).window? .advanced (handle world.nextWindow 0) =
    some desk.list := by
  simp [SimulatedHost.window?, SimulatedHost.anyWindow?, on, windows, menus, list]

/-- The gender menu is found under its handle. -/
theorem window_menu {answer : Option Int32} (asked : desk.gender = some answer)
    (fits : desk.opened ≤ UInt32.size) :
    (desk.on world).window? .simple (desk.menuHandle world.nextWindow) = some (menu answer) := by
  -- The search passes by list and portrait box, which have other handles.
  have unlike {index : Nat} (before : index < 2) :
      (desk.menuHandle world.nextWindow == handle world.nextWindow index) = false :=
    beq_eq_false_iff_ne.mpr (menuHandle_ne asked fits before)
  have kind : (menu answer).kind = .simple := by cases answer <;> rfl
  simp [SimulatedHost.window?, SimulatedHost.anyWindow?, on, windows, menus, asked, unlike, kind,
    List.lookup_cons]

end Windows

section Requests

/-- The list tells whether it waits. -/
theorem asks_active : Talk.Leads (· = desk.on world)
    (Talk.request (.advancedMenuActive (handle world.nextWindow 0))) fun active host =>
      active = desk.waits ∧ host = desk.on world := by
  refine Talk.leads_request fun cx shown => ⟨?_, shown⟩
  simp only [Request.serve, Host.advancedMenuActive, shown, window_list]
  rfl

/-- The list tells what it was closed with. -/
theorem asks_result : Talk.Leads (· = desk.on world)
    (Talk.request (.advancedMenuResult (handle world.nextWindow 0))) fun result host =>
      result = desk.picked ∧ host = desk.on world := by
  refine Talk.leads_request fun cx shown => ⟨?_, shown⟩
  simp only [Request.serve, Host.advancedMenuResult, shown, window_list]
  rfl

/-- The list tells which option the cursor is on. -/
theorem asks_option : Talk.Leads (· = desk.on world)
    (Talk.request (.advancedMenuOption (handle world.nextWindow 0))) fun option host =>
      option = desk.option ∧ host = desk.on world := by
  refine Talk.leads_request fun cx shown => ⟨?_, shown⟩
  simp only [Request.serve, Host.advancedMenuOption, shown, window_list]
  rfl

/-- A list that waits again is closed no more. -/
theorem resumes_list (alone : desk.gender = none) : Talk.Leads (· = desk.on world)
    (Talk.request (.resumeAdvancedMenu (handle world.nextWindow 0))) fun _ host =>
      host = { desk with waits := true }.on world := by
  refine Talk.leads_request fun cx shown => ?_
  have unlike : handle world.nextWindow 1 ≠ handle world.nextWindow 0 :=
    handle_ne _ (by omega) (by decide) (by decide)
  simp [Request.serve, Context.call, Host.resumeAdvancedMenu, shown, Reply.still,
    SimulatedHost.resumeWindow, on, windows, menus, opened, alone, unlike, list]

/-- A portrait is shown after the others. -/
theorem shows_portrait (box : WindowId) (portrait : Portrait) : Talk.Leads (· = desk.on world)
    (Talk.request (.showPortrait box portrait)) fun _ host =>
      host = { desk with portraits := desk.portraits ++ [portrait.monsterId] }.on world :=
  Talk.leads_request fun cx shown => by
    simp only [Request.serve, Context.call, Host.showPortrait, shown]
    rfl

/-- The host tells the gender of a form, whatever stands on the desk. -/
theorem asks_gender {monster : Int32} : Talk.Leads (· = desk.on world)
    (Talk.request (.monsterGender monster)) fun gender host =>
      gender = world.genderOf monster ∧ host = desk.on world :=
  Talk.leads_request fun cx shown => ⟨by rw [Request.serve, shown]; rfl, shown⟩

/-- The first free slot is that of the roster. -/
theorem asks_slot : Talk.Leads (· = desk.on world)
    (Talk.request (.firstEmptySlot rosterLimit)) fun slot host =>
      slot = SimulatedHost.firstFree world.roster 0 (min rosterLimit world.rosterCapacity) ∧
        host = desk.on world :=
  Talk.leads_request fun cx shown => ⟨by rw [Request.serve, shown]; rfl, shown⟩

/-- The name of a species is that of the host. -/
theorem asks_name {species : Int32} : Talk.Leads (· = desk.on world)
    (Talk.request (.monsterName species)) fun name host =>
      name = world.nameOf species ∧ host = desk.on world :=
  Talk.leads_request fun cx shown => ⟨by rw [Request.serve, shown]; rfl, shown⟩

/-- A member goes into the roster. -/
theorem enlists {slot : Nat} {member : Recruit} : Talk.Leads (· = desk.on world)
    (Talk.request (.recruit slot member)) fun _ host =>
      host = desk.on { world with roster := world.roster.insert slot member } :=
  Talk.leads_request fun cx shown => by rw [Request.serve, Context.call, shown]; rfl

/-- A species is marked as one that joined. -/
theorem marks {species : Int32} : Talk.Leads (· = desk.on world)
    (Talk.request (.setJoined species)) fun _ host =>
      host = desk.on { world with joined := world.joined ++ [species] } :=
  Talk.leads_request fun cx shown => by rw [Request.serve, Context.call, shown]; rfl

/-- What is told to the journal is not told to the host. -/
theorem records {category : Category} {severity : Severity} {message : String} :
    Talk.Leads (· = desk.on world) (Talk.request (.record category severity message)) fun _ host =>
      host = desk.on world :=
  Talk.leads_request fun _ shown => shown

/-- A gender menu is opened next to list and portrait box. -/
theorem opens_menu (alone : desk.gender = none) : Talk.Leads (· = desk.on world)
    (Talk.request (.createSimpleMenu genderMenu)) fun window host =>
      window = some (desk.menuHandle world.nextWindow) ∧
        host = { desk with gender := some none }.on world := by
  refine Talk.leads_request fun cx shown => ?_
  simp [Request.serve, Context.call, Host.createSimpleMenu, shown, SimulatedHost.opening,
    SimulatedHost.openWindow, on, windows, menus, opened, alone, menu, menuHandle, handle, list,
    Nat.add_assoc]

variable {answer : Option Int32} (asked : desk.gender = some answer)
  (fits : desk.opened ≤ UInt32.size)

include asked fits

/-- The gender menu tells whether it waits. -/
theorem asks_menu_active : Talk.Leads (· = desk.on world)
    (Talk.request (.simpleMenuActive (desk.menuHandle world.nextWindow))) fun active host =>
      active = answer.isNone ∧ host = desk.on world := by
  refine Talk.leads_request fun cx shown => ⟨?_, shown⟩
  simp only [Request.serve, Host.simpleMenuActive, shown, window_menu asked fits]
  cases answer <;> rfl

/-- The gender menu tells its answer. -/
theorem asks_menu_result : Talk.Leads (· = desk.on world)
    (Talk.request (.simpleMenuResult (desk.menuHandle world.nextWindow))) fun result host =>
      result = answer.getD 0 ∧ host = desk.on world := by
  refine Talk.leads_request fun cx shown => ⟨?_, shown⟩
  simp only [Request.serve, Host.simpleMenuResult, shown, window_menu asked fits]
  cases answer <;> rfl

/-- The gender menu is closed, and list and portrait box stay. -/
theorem closes_menu : Talk.Leads (· = desk.on world)
    (Talk.request (.closeSimpleMenu (desk.menuHandle world.nextWindow))) fun _ host =>
      host = { desk with gender := none, closed := desk.closed + 1 }.on world := by
  refine Talk.leads_request fun cx shown => ?_
  -- Closing removes all windows with the handle, so the others must not have it.
  have unlike {index : Nat} (before : index < 2) :
      handle world.nextWindow index ≠ desk.menuHandle world.nextWindow :=
    (menuHandle_ne asked fits before).symm
  simp only [Request.serve, Context.call, Host.closeSimpleMenu, shown, SimulatedHost.closeWindow,
    window_menu asked fits]
  simp [on, windows, menus, opened, asked, Reply.still, unlike, list]
  omega

end Requests

end Desk

end DungeonHooks.Replay
