import DungeonHooks.Menu.Builtin
import DungeonHooks.Proofs.Checked.Recruit
import DungeonHooks.Proofs.Replay.Recruit.Sessions

/-! The built-in menus with checked operations, each beside the menu that it guards. -/

namespace DungeonHooks

open Replay Checked

/-- A menu made of checked talks. -/
structure CheckedMenu where
  create : Int32 → MenuState → CheckedTalk MenuState
  update : Int32 → MenuState → CheckedTalk (Bool × MenuState)
  close : Int32 → MenuState → CheckedTalk MenuState

namespace CheckedMenu

/-- A menu that opens the keyboard and acts once on the text it ends with. -/
def keyboard (act : String → MenuState → CheckedTalk MenuState) : CheckedMenu where
  create id state := do
    Talk.request (.setupKeyboard id)
    return state
  update _ state := do
    let dismissed ← Talk.request .keyboardDismissed
    return (dismissed, state)
  close _ state := do
    let typed ← Talk.request .keyboardText
    act typed state

/-- Compares the typed text with the password. -/
def password (password : String) : CheckedMenu :=
  .keyboard fun typed state => do
    let difference ← comparePrefix nameLength (Text.utf8 typed) (Text.utf8 password)
    return { state with returnValue := difference }

/-- Gives the partner the typed name, whose bytes are copied into a buffer of zeros for scripts. -/
def partnerName : CheckedMenu :=
  .keyboard fun typed state => do
    let name ← truncate typed
    Talk.request (.renamePartner name)
    let bytes ← copyFront (List.replicate nameLength 0) (Text.utf8 name)
    Talk.request (.saveVariableBytes .partnerFirstName bytes)
    Talk.request (.record .menus .info s!"Partner renamed to '{name}'")
    return { state with returnValue := 0 }

/-- Recruits a monster. Closing the windows needs no checks. -/
def recruit : CheckedMenu where
  create _ := Recruit.create
  update _ := Recruit.update
  close _ state := liftM (RecruitMenu.close state)

/-- From a tame host, and with room for what was picked, no callback fails, and each leaves room. -/
structure Guards (checked : CheckedMenu) (plain : TalkingMenu) : Prop where
  create : ∀ id state cx, Smooth (checked.create id state) (plain.create id state) cx
  update : ∀ id {state} {cx : Context SimulatedHost}, Tame cx.host → Recruit.Roomy state →
    Smooth (checked.update id state) (plain.update id state) cx
  close : ∀ id state cx, Smooth (checked.close id state) (plain.close id state) cx
  create_roomy : ∀ id (cx : Context SimulatedHost),
    Recruit.Roomy ((plain.create id { activeMenu := some id }).hold cx).value
  update_roomy : ∀ id {state} {cx : Context SimulatedHost}, Tame cx.host → Recruit.Roomy state →
    Recruit.Roomy ((plain.update id state).hold cx).value.2

/-- A keyboard menu guards another one if it acts on what was typed without a failure. -/
theorem keyboard_guards {checked : String → MenuState → CheckedTalk MenuState}
    {plain : String → MenuState → Talk MenuState}
    (acts : ∀ typed state cx, Smooth (checked typed state) (plain typed state) cx) :
    (keyboard checked).Guards (.keyboard plain) where
  create _ _ _ := .ask trivial (.done _)
  update _ _ _ _ _ := .ask trivial (.done _)
  close _ state _ := .ask trivial (acts _ state _)
  -- The state of a keyboard menu never leaves its first stage.
  create_roomy _ _ := Recruit.roomy_of_early (.inl rfl)
  update_roomy _ _ _ _ roomy := roomy

/-- The password menu fails on no text. -/
theorem password_guards (text : String) : (password text).Guards (.password text) :=
  keyboard_guards fun _ _ _ => .check (comparePrefix_eq ..) (.done _)

/-- The rename menu fails on no name. -/
theorem partnerName_guards : partnerName.Guards .partnerName :=
  keyboard_guards fun typed _ _ => by
    refine .check (truncate_eq typed) (.ask trivial (.check (copyFront_eq ?_) ?_))
    · exact Text.length_utf8_cut nameLength typed
    · exact .ask trivial (.ask trivial (.done _))

/-- The recruit menu fails on no choice that leaves room. -/
theorem recruit_guards : recruit.Guards .recruit where
  create _ state _ := Recruit.create_smooth state
  update _ _ _ tame roomy := Recruit.update_smooth tame roomy
  close _ state _ := Recruit.smooth_plain (RecruitMenu.close_uses (fun _ _ _ plain => plain) state)
  create_roomy id cx := Recruit.roomy_of_early (.inl ((create_browses id).hold cx))
  update_roomy _ _ _ tame roomy := Recruit.update_roomy tame roomy

end CheckedMenu

end DungeonHooks
