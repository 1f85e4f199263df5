import DungeonHooks.Menu.Builtin
import DungeonHooks.Proofs.Host.Spoken
import DungeonHooks.Proofs.Menu.Agreement

/-! Menus that only talk to their host cannot tell apart hosts that agree. -/

namespace DungeonHooks

universe u

variable {σ : Type} [Host σ] {α : Type} {allowed : Request → Prop} {agree : σ → σ → Prop}

/-- Any talk makes requests of some kind. -/
theorem Talk.uses_any {β : Type u} (talk : Talk β) : talk.Uses fun _ => True := by
  -- Nothing is asked of a request.
  induction talk with
  | done value => trivial
  | ask request next ih => exact ⟨trivial, ih⟩

/-- The callback only talks to its host. -/
def MenuCallback.Talks (allowed : Request → Prop) (callback : MenuCallback σ α) : Prop :=
  ∀ id state, Spoken allowed fun cx =>
    let called := callback id { state, context := cx }
    ((called.1, called.2.state), called.2.context)

/-- The callbacks of the menu only talk to their host. -/
structure Menu.Talks (allowed : Request → Prop) (menu : Menu σ) : Prop where
  create : MenuCallback.Talks allowed menu.create
  update : MenuCallback.Talks allowed menu.update
  close : MenuCallback.Talks allowed menu.close

/-- The menus of the machine only talk to their host. -/
def MenuMachine.Talks (allowed : Request → Prop) (machine : MenuMachine σ) : Prop :=
  ∀ descriptor ∈ machine.table.records, descriptor.menu.Talks allowed

/-- Every request that the menu may come to is an allowed one. -/
structure TalkingMenu.Uses (allowed : Request → Prop) (menu : TalkingMenu) : Prop where
  create : ∀ id state, (menu.create id state).Uses allowed
  update : ∀ id state, (menu.update id state).Uses allowed
  close : ∀ id state, (menu.close id state).Uses allowed

/-- A menu made of talks talks to its host as its talks do. -/
theorem TalkingMenu.Uses.talks {menu : TalkingMenu} (uses : menu.Uses allowed) :
    (menu.menu : Menu σ).Talks allowed where
  -- Each callback is the talk itself, and no talk halts.
  create id state :=
    ⟨(menu.create id state).bind fun after => .done (.ok (), after),
      (uses.create id state).bind fun _ => trivial,
      fun cx => by simp [TalkingMenu.menu, Talk.hold_bind]⟩
  update id state :=
    ⟨(menu.update id state).bind fun ended => .done (.ok ended.1, ended.2),
      (uses.update id state).bind fun _ => trivial,
      fun cx => by simp [TalkingMenu.menu, Talk.hold_bind]⟩
  close id state :=
    ⟨(menu.close id state).bind fun after => .done (.ok (), after),
      (uses.close id state).bind fun _ => trivial,
      fun cx => by simp [TalkingMenu.menu, Talk.hold_bind]⟩

/-- A menu made of talks does nothing but talk. -/
theorem TalkingMenu.menu_talks (menu : TalkingMenu) :
    (menu.menu : Menu σ).Talks fun _ => True :=
  Uses.talks ⟨fun _ _ => Talk.uses_any _, fun _ _ => Talk.uses_any _, fun _ _ => Talk.uses_any _⟩

/-- The built-in menus do nothing but talk. -/
theorem MenuMachine.builtin_talks (first : Int32) :
    (MenuMachine.builtin first : MenuMachine σ).Talks fun _ => True := by
  intro descriptor member
  simp only [builtin, new, List.mem_cons, List.not_mem_nil, or_false] at member
  -- All three menus are made of talks.
  rcases member with rfl | rfl | rfl <;> exact TalkingMenu.menu_talks _

/-- A callback that talks goes alike on hosts that agree. -/
theorem MenuCallback.Talks.respects {callback : MenuCallback σ α} (talks : callback.Talks allowed)
    (respected : Respected allowed agree) : callback.Respects agree := by
  intro id frame other state alike
  obtain ⟨value, host⟩ := (talks id other.state).respects respected alike
  -- The two frames have the same state, so the callback is the same talk for both.
  obtain ⟨_, cx⟩ := frame
  obtain rfl := state
  obtain ⟨answer, state⟩ := Prod.mk.inj value
  exact ⟨answer, state, host⟩

/-- Menus that talk go alike on hosts that agree. -/
theorem MenuMachine.Talks.respects {machine : MenuMachine σ} (talks : machine.Talks allowed)
    (respected : Respected allowed agree) : machine.Respects agree := by
  intro descriptor member
  have callbacks := talks descriptor member
  -- Each callback does so by itself.
  exact ⟨callbacks.create.respects respected, callbacks.update.respects respected,
    callbacks.close.respects respected⟩

end DungeonHooks
