import DungeonHooks.Menu.Builtin
import DungeonHooks.Proofs.Menu.Recruit.Stages

/-! Menus whose callbacks leave it alone which menu is running, as all built-in menus do. -/

namespace DungeonHooks

variable {σ α : Type}

/-- The callback leaves it alone which menu is running. -/
def MenuCallback.Steady (callback : MenuCallback σ α) : Prop :=
  ∀ id frame, (callback id frame).2.state.activeMenu = frame.state.activeMenu

/-- The callbacks of the menu leave it alone which menu is running. -/
structure Menu.Steady (menu : Menu σ) : Prop where
  create : menu.create.Steady
  update : menu.update.Steady
  close : menu.close.Steady

/-- Where such a callback leads from a frame, the same menu is running as in the frame. -/
theorem MenuCallback.Steady.kept {callback : MenuCallback σ α} (steady : callback.Steady)
    {id : Int32} {frame after : MenuFrame σ} {outcome : Except Halt α}
    (called : callback id frame = (outcome, after)) :
    after.state.activeMenu = frame.state.activeMenu := by
  have kept := steady id frame
  rwa [called] at kept

section

variable [Host σ]

/-- The recruit menu leaves it alone which menu is running. -/
theorem recruit_menu_steady : (Menu.recruit : Menu σ).Steady where
  create _ frame := (RecruitMenu.create_steady frame.state).hold frame.context
  update _ frame := (RecruitMenu.update_steady frame.state).hold frame.context
  close _ frame := ((RecruitMenu.close_passing frame.state).hold frame.context).2.1

/-- A menu around the keyboard leaves it alone which menu is running, if what it does with the text does. -/
theorem keyboard_menu_steady {act : String → MenuState → Talk MenuState}
    (acts : ∀ typed state, (act typed state).Always fun after _ =>
      after.activeMenu = state.activeMenu) :
    ((TalkingMenu.keyboard act).menu : Menu σ).Steady where
  -- Before the keyboard is dismissed, the state is handed on as it is.
  create _ _ := rfl
  update _ _ := rfl
  close _ frame := (acts (Host.keyboardText frame.context.host) frame.state).hold frame.context

/-- All built-in menus leave it alone which menu is running. -/
theorem builtin_steady (first : Int32) :
    ∀ descriptor ∈ (MenuMachine.builtin first : MenuMachine σ).table.records,
      descriptor.menu.Steady := by
  intro descriptor member
  simp only [MenuMachine.builtin, MenuMachine.new, List.mem_cons, List.not_mem_nil, or_false]
    at member
  rcases member with rfl | rfl | rfl
  · exact recruit_menu_steady
  · exact keyboard_menu_steady fun typed state => rfl
  · exact keyboard_menu_steady fun typed state _ _ _ => rfl

end

end DungeonHooks
