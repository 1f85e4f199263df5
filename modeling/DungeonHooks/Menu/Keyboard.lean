import DungeonHooks.Menu.Machine
import DungeonHooks.Text.Cut

/-! Menus around the host's text keyboard: set it up, wait until it is dismissed, use what was typed. -/

namespace DungeonHooks

/-- The bytes kept of a name that was typed or looked up. -/
def nameLength : Nat := 10

/-- A menu that opens the keyboard and acts once on the text it ends with. -/
def TalkingMenu.keyboard (act : String → MenuState → Talk MenuState) : TalkingMenu where
  create id state := do
    Talk.request (.setupKeyboard id)
    return state
  update _ state := do
    let dismissed ← Talk.request .keyboardDismissed
    return (dismissed, state)
  close _ state := do
    let typed ← Talk.request .keyboardText
    act typed state

/-- The text that unlocks the password menu. -/
def unlockingPassword : String := "shard"

/-- Returns 0 for the password and something else for any other text; only the first bytes count. -/
def TalkingMenu.password (password : String) : TalkingMenu :=
  .keyboard fun typed state =>
    let difference := Text.compareBounded nameLength (Text.utf8 typed) (Text.utf8 password)
    return { state with returnValue := difference }

/-- Gives the partner the typed name, and stores it for scripts too. Always returns 0. -/
def TalkingMenu.partnerName : TalkingMenu :=
  .keyboard fun typed state => do
    let name := Text.cut nameLength typed
    let bytes := Text.padded nameLength (Text.utf8 name)
    Talk.request (.renamePartner name)
    Talk.request (.saveVariableBytes .partnerFirstName bytes)
    Talk.request (.record .menus .info s!"Partner renamed to '{name}'")
    return { state with returnValue := 0 }

variable {σ : Type} [Host σ]

/-- The password menu on a host. -/
def Menu.password (password : String) : Menu σ :=
  (TalkingMenu.password password).menu

/-- The rename menu on a host. -/
def Menu.partnerName : Menu σ :=
  TalkingMenu.partnerName.menu

end DungeonHooks
