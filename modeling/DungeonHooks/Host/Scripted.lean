import DungeonHooks.Host.Basic

/-! A host whose answers are laid down beforehand, for trying out handlers and menus. -/

namespace DungeonHooks

/-- An open window; its state is whatever it is set to. -/
structure ScriptedWindow where
  active : Bool := true
  result : Int32 := 0
  option : Int32 := 0
  deriving DecidableEq, Inhabited

/-- The answers of the host, and its open windows. -/
structure ScriptedHost where
  pressed : UInt32 := 0
  held : UInt32 := 0
  /-- The script values of raw words that differ from the word itself. -/
  params : List (UInt16 × Int32) := []
  /-- What draws hand out, whatever their range. -/
  random : List Int32 := []
  names : List (Int32 × String) := []
  genders : List (Int32 × Gender) := []
  freeSlots : List Nat := []
  keyboardText : String := ""
  keyboardDone : Bool := false
  refusesAdvanced : Bool := false
  refusesSimple : Bool := false
  refusesPortrait : Bool := false
  nextWindow : Int32 := 0
  windows : List (WindowId × ScriptedWindow) := []
  deriving DecidableEq, Inhabited

namespace ScriptedHost

/-- The window with a handle. -/
def window? (host : ScriptedHost) (id : WindowId) : Option ScriptedWindow :=
  host.windows.lookup id

/-- Removes a window, whatever its kind. -/
def remove (id : WindowId) (host : ScriptedHost) : ScriptedHost :=
  { host with windows := host.windows.filter (·.1 != id) }

/-- Opens a window under the next handle, unless windows of its kind are refused. -/
def openWindow (refused : Bool) (host : ScriptedHost) : Reply ScriptedHost (Option WindowId) :=
  if refused then .still host none
  else
    let id : WindowId := ⟨host.nextWindow⟩
    let windows := (host.remove id).windows ++ [(id, ({} : ScriptedWindow))]
    .still { host with nextWindow := host.nextWindow + 1, windows } (some id)

/-- Changes a window. -/
def edit (id : WindowId) (change : ScriptedWindow → ScriptedWindow) (host : ScriptedHost) :
    ScriptedHost :=
  { host with
    windows := host.windows.map fun (key, window) =>
      (key, if key == id then change window else window) }

end ScriptedHost

/-- The services of the scripted host. -/
instance : Host ScriptedHost where
  scriptParam host raw := (host.params.lookup raw).getD (Int32.ofNat raw.toNat)
  pressedButtons host := host.pressed
  heldButtons host := host.held
  randRange low _ host := .still { host with random := host.random.tail } (host.random.headD low)
  createAdvancedMenu _ host := host.openWindow host.refusesAdvanced
  advancedMenuActive host id := (host.window? id).any (·.active)
  advancedMenuResult host id := ((host.window? id).map (·.result)).getD (-1)
  advancedMenuOption host id := ((host.window? id).map (·.option)).getD 0
  resumeAdvancedMenu id host := .still (host.edit id fun w => { w with active := true }) ()
  closeAdvancedMenu id host := .still (host.remove id) ()
  createSimpleMenu _ host := host.openWindow host.refusesSimple
  simpleMenuActive host id := (host.window? id).any (·.active)
  simpleMenuResult host id := ((host.window? id).map (·.result)).getD 0
  closeSimpleMenu id host := .still (host.remove id) ()
  createPortraitBox _ _ _ host := host.openWindow host.refusesPortrait
  closePortraitBox id host := .still (host.remove id) ()
  monsterName host id := (host.names.lookup id).getD s!"Mon{id.toInt}"
  monsterGender host id := (host.genders.lookup id).getD .invalid
  firstEmptySlot host limit := host.freeSlots.find? (· < limit)
  recruit slot _ host := .still { host with freeSlots := host.freeSlots.filter (· != slot) } ()
  keyboardText host := host.keyboardText
  keyboardDismissed host := host.keyboardDone

end DungeonHooks
