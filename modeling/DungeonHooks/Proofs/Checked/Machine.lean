import DungeonHooks.Proofs.Checked.Menus

/-! The built-in machine with checked menus: on a tame host, its calls go as those of the machine without checks. -/

namespace DungeonHooks

open Replay Checked

namespace CheckedMenu

/-- A callback that holds a checked talk, whose value has an answer and a state. A failure halts it. -/
def callback {α β : Type} (talk : Int32 → MenuState → CheckedTalk α) (split : α → β × MenuState) :
    MenuCallback SimulatedHost β := fun id frame =>
  match (talk id frame.state).run.holdChecked frame.context with
  | (.error halt, context) => (.error halt, { frame with context })
  | (.ok value, context) => (.ok (split value).1, { state := (split value).2, context })

/-- The menu that holds its checked talks with the simulated host. -/
def menu (checked : CheckedMenu) : Menu SimulatedHost where
  create := callback checked.create fun state => ((), state)
  update := callback checked.update id
  close := callback checked.close fun state => ((), state)

/-- A smooth talk makes a callback that does not fail. -/
theorem callback_eq {α β : Type} {talk : Int32 → MenuState → CheckedTalk α} {plain : Talk α}
    {id : Int32} {state : MenuState} {cx : Context SimulatedHost} {split : α → β × MenuState}
    (smooth : Smooth (talk id state) plain cx) (left : (plain.hold cx).context.host.HasHandles) :
    callback talk split id { state, context := cx } =
      (.ok (split (plain.hold cx).value).1,
        { state := (split (plain.hold cx).value).2, context := (plain.hold cx).context }) := by
  rw [callback, smooth left]

end CheckedMenu

/-- The built-in menus with checked operations. -/
def checkedMenus : List (MenuDescriptor SimulatedHost) :=
  [ { name := "RecruitAnyMonster", menu := CheckedMenu.recruit.menu },
    { name := "Password", keyboardPrompt := some 263, keyboardConfirm := some 431,
      menu := (CheckedMenu.password unlockingPassword).menu },
    { name := "PartnerName", keyboardPrompt := some 283, keyboardConfirm := some 292,
      menu := CheckedMenu.partnerName.menu } ]

/-- The other descriptor names the same menu, with checked operations. -/
inductive Twins (descriptor other : MenuDescriptor SimulatedHost) : Prop where
  | twins (plain : TalkingMenu) (checked : CheckedMenu) (guards : checked.Guards plain)
    (runs : descriptor.menu = plain.menu) (checks : other.menu = checked.menu)
    (named : other.name = descriptor.name)

namespace MenuMachine

/-- The machine with checked menus in the place of the built-in ones. -/
def guarded (machine : MenuMachine SimulatedHost) : MenuMachine SimulatedHost :=
  { machine with table := { machine.table with records := checkedMenus } }

/-- Only the menus are replaced, not the state. -/
@[simp] theorem guarded_state (machine : MenuMachine SimulatedHost) :
    machine.guarded.state = machine.state :=
  rfl

/-- Each of the built-in menus has its twin at the same index. -/
theorem builtin_twins (first index : Int32) :
    Option.Rel Twins ((builtin first).table.record? index)
      ((builtin first).guarded.table.record? index) := by
  unfold HandlerTable.record?
  split
  · exact .none
  · match index.toInt.toNat with
    | 0 => exact .some (.twins _ _ CheckedMenu.recruit_guards rfl rfl rfl)
    | 1 => exact .some (.twins _ _ (CheckedMenu.password_guards unlockingPassword) rfl rfl rfl)
    | 2 => exact .some (.twins _ _ CheckedMenu.partnerName_guards rfl rfl rfl)
    | _ + 3 => exact .none

end MenuMachine

/-- The reply of a machine whose menus are replaced by the checked ones. -/
def MenuReply.guarded {α : Type} (reply : MenuReply SimulatedHost α) :
    MenuReply SimulatedHost α :=
  { reply with machine := reply.machine.guarded }

/-- The menus are the built-in ones on a tame host, and a menu that is open has room for what was picked. -/
structure Sheltered (first : Int32) (machine : MenuMachine SimulatedHost)
    (cx : Context SimulatedHost) : Prop where
  table : machine.table = (MenuMachine.builtin first).table
  tame : Tame cx.host
  roomy : machine.state.activeMenu.isSome = true → Recruit.Roomy machine.state

/-- A call of the machine on a host keeps it sheltered, takes back no handles, and goes as with checked menus if there are handles enough. -/
structure Guarded {α : Type} (first : Int32) (host : SimulatedHost)
    (reply checked : MenuReply SimulatedHost α) : Prop where
  sheltered : Sheltered first reply.machine reply.context
  handles : host.nextWindow ≤ reply.context.host.nextWindow
  same : reply.context.host.HasHandles → checked = reply.guarded

namespace Sheltered

variable {first : Int32} {machine : MenuMachine SimulatedHost} {cx : Context SimulatedHost}

/-- A call that leaves state and host alone is guarded. -/
theorem idle {α : Type} (sheltered : Sheltered first machine cx) (answer : Except Halt α)
    (severity : Severity) (message : String) :
    Guarded first cx.host { answer, machine, context := cx.record .menus severity message }
      { answer, machine := machine.guarded, context := cx.record .menus severity message } where
  sheltered := ⟨sheltered.table, sheltered.tame.same rfl rfl, sheltered.roomy⟩
  handles := Nat.le_refl _
  same _ := rfl

/-- The menu with an id has its twin under the same id. -/
theorem twins (sheltered : Sheltered first machine cx) (menu : Int32) :
    Option.Rel Twins (machine.descriptor? menu) (machine.guarded.descriptor? menu) := by
  obtain ⟨table, state⟩ := machine
  obtain rfl : table = _ := sheltered.table
  exact MenuMachine.builtin_twins first ((MenuMachine.builtin first :
    MenuMachine SimulatedHost).table.indexOf menu)

/-- What is found for an id is found with its checks, and what is not found is missing in the same words. -/
theorem lookup (sheltered : Sheltered first machine cx) (menu : Int32) :
    (∃ error, machine.table.lookup menu = .error error ∧
        machine.guarded.table.lookup menu = .error error) ∨
      ∃ descriptor other, Twins descriptor other ∧ machine.table.lookup menu = .ok descriptor ∧
        machine.guarded.table.lookup menu = .ok other := by
  have twins := sheltered.twins menu
  obtain ⟨table, state⟩ := machine
  obtain rfl : table = _ := sheltered.table
  unfold HandlerTable.lookup HandlerTable.get
  simp only [MenuMachine.descriptor?] at twins
  generalize HandlerTable.record? _ _ = known at twins ⊢
  generalize HandlerTable.record? _ _ = other at twins ⊢
  cases twins with
  | none => exact .inl ⟨_, rfl, rfl⟩
  | some twins => exact .inr ⟨_, _, twins, rfl, rfl⟩

/-- The start of a menu is guarded. -/
theorem start (sheltered : Sheltered first machine cx) (menu : Int32) :
    Guarded first cx.host (machine.start menu cx) (machine.guarded.start menu cx) := by
  rcases sheltered.lookup menu with
    ⟨error, known, guarded⟩ | ⟨descriptor, other, twins, known, guarded⟩
  · simp only [MenuMachine.start, known, guarded]
    exact sheltered.idle _ _ _
  · obtain ⟨plain, checked, guards, runs, checks, named⟩ := twins
    have host : (machine.announce menu descriptor.name cx).host = cx.host :=
      machine.announce_host menu descriptor.name cx
    -- The menus have the same name, so the same is told.
    have told : machine.guarded.announce menu other.name cx =
        machine.announce menu descriptor.name cx := by rw [named]; rfl
    simp only [MenuMachine.start, known, guarded, runs, checks, told, MenuMachine.frame,
      TalkingMenu.menu, CheckedMenu.menu]
    generalize machine.announce menu descriptor.name cx = cx at host ⊢
    rw [← host]
    refine ⟨⟨sheltered.table, ?_, fun _ => guards.create_roomy menu cx⟩, ?_, fun left => ?_⟩
    · exact (Talk.uses_any _).hold_keeps Tame.kept cx (host ▸ sheltered.tame)
    · exact Talk.hold_nextWindow _ cx
    · rw [CheckedMenu.callback_eq (guards.create menu _ cx) left]
      rfl

/-- The poll of a menu is guarded. -/
theorem step (sheltered : Sheltered first machine cx) (menu : Int32) :
    Guarded first cx.host (machine.step menu cx) (machine.guarded.step menu cx) := by
  have twins := sheltered.twins menu
  unfold MenuMachine.step
  generalize machine.descriptor? menu = known at twins ⊢
  generalize machine.guarded.descriptor? menu = other at twins ⊢
  cases twins with
  | none => exact sheltered.idle _ _ _
  | @some descriptor other twins =>
    obtain ⟨plain, checked, guards, runs, checks, named⟩ := twins
    simp only [MenuMachine.guarded_state, runs, checks, MenuMachine.frame, TalkingMenu.menu,
      CheckedMenu.menu]
    split
    case isTrue => exact sheltered.idle _ _ _
    case isFalse active =>
      have roomy : Recruit.Roomy machine.state := sheltered.roomy (by simp_all)
      have smooth := guards.update menu sheltered.tame roomy
      have updates := @CheckedMenu.callback_eq _ _ _ _ _ _ _ id smooth
      have updated := guards.update_roomy menu sheltered.tame roomy
      have tame := (plain.update menu machine.state).uses_any.hold_keeps Tame.kept cx sheltered.tame
      have handles := (plain.update menu machine.state).hold_nextWindow cx
      generalize (plain.update menu machine.state).hold cx = held at updates updated tame handles ⊢
      obtain ⟨⟨ended, state⟩, said, mid⟩ := held
      -- Only an update that ends the session is followed by the callback that closes it.
      cases ended with
      | false =>
        refine ⟨⟨sheltered.table, tame, fun _ => updated⟩, handles, fun left => ?_⟩
        rw [updates left]
        rfl
      | true =>
        have tame : Tame ((plain.close menu state).hold mid).context.host :=
          (plain.close menu state).uses_any.hold_keeps Tame.kept mid tame
        have more : mid.host.nextWindow ≤ _ := (plain.close menu state).hold_nextWindow mid
        refine ⟨⟨sheltered.table, tame.same rfl rfl, fun active => by contradiction⟩,
          Nat.le_trans handles more, fun left => ?_⟩
        rw [updates (Nat.lt_of_le_of_lt more left)]
        dsimp only [id]
        rw [CheckedMenu.callback_eq (guards.close menu state mid) left]
        rfl

end Sheltered

end DungeonHooks
