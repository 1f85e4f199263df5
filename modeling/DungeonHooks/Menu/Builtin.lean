import DungeonHooks.Menu.Recruit

/-! The menus that come with the runtime. -/

namespace DungeonHooks

variable {σ : Type} [Host σ]

/-- The machine that comes with the runtime, its first menu at an id. -/
def MenuMachine.builtin (firstMenu : Int32) : MenuMachine σ :=
  .new firstMenu
    [ { name := "RecruitAnyMonster", menu := .recruit },
      { name := "Password", keyboardPrompt := some 263, keyboardConfirm := some 431,
        menu := .password unlockingPassword },
      { name := "PartnerName", keyboardPrompt := some 283, keyboardConfirm := some 292,
        menu := .partnerName } ]

end DungeonHooks
