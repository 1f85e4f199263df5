import DungeonHooks.Proofs.Menu.Session
import DungeonHooks.Proofs.Menu.Talks

/-! Menus whose callbacks always return: no call of their machine halts. -/

namespace DungeonHooks

variable {σ α : Type}

/-- The callback returns an answer, whatever it is called with. -/
def MenuCallback.Returns (callback : MenuCallback σ α) : Prop :=
  ∀ id frame, ∃ answer, (callback id frame).1 = .ok answer

/-- The callbacks of the menu return. -/
structure Menu.Returns (menu : Menu σ) : Prop where
  create : MenuCallback.Returns menu.create
  update : MenuCallback.Returns menu.update
  close : MenuCallback.Returns menu.close

/-- The callbacks of all menus of the machine return. -/
def MenuMachine.Returns (machine : MenuMachine σ) : Prop :=
  ∀ descriptor ∈ machine.table.records, descriptor.menu.Returns

/-- A talk comes to its end, so a menu made of talks returns. -/
theorem TalkingMenu.menu_returns [Host σ] (menu : TalkingMenu) : (menu.menu : Menu σ).Returns where
  create _ _ := ⟨_, rfl⟩
  update _ _ := ⟨_, rfl⟩
  close _ _ := ⟨_, rfl⟩

/-- What a call left behind, with the context apart. -/
def MenuReply.split (reply : MenuReply σ α) : (Except Halt α × MenuMachine σ) × Context σ :=
  ((reply.answer, reply.machine), reply.context)

namespace MenuMachine

/-- All built-in menus return. -/
theorem builtin_returns [Host σ] (first : Int32) : (builtin first : MenuMachine σ).Returns := by
  intro descriptor member
  simp only [builtin, new, List.mem_cons, List.not_mem_nil, or_false] at member
  -- All three menus are made of talks.
  rcases member with rfl | rfl | rfl <;> exact TalkingMenu.menu_returns _

section

variable {machine : MenuMachine σ} (returns : machine.Returns) (menu : Int32) (cx : Context σ)

include returns

/-- Starting a menu that returns does not halt. -/
theorem start_answers : ∃ answer, (machine.start menu cx).answer = .ok answer := by
  unfold start
  cases known : machine.table.lookup menu with
  | error error => exact ⟨_, rfl⟩
  | ok descriptor =>
    have callbacks := returns descriptor (HandlerTable.mem_of_get known)
    obtain ⟨answer, created⟩ := callbacks.create menu
      { state := { activeMenu := some menu }, context := machine.announce menu descriptor.name cx }
    -- What `create` returns is the answer.
    refine ⟨.ok answer, ?_⟩
    simp only [settle, frame, created, Except.map]

/-- Neither does polling it. -/
theorem step_answers : ∃ answer, (machine.step menu cx).answer = .ok answer := by
  unfold step
  cases known : machine.descriptor? menu with
  | none => exact ⟨_, rfl⟩
  | some descriptor =>
    have callbacks := returns descriptor
      (HandlerTable.mem_of_get (HandlerTable.lookup_eq_ok_iff.mpr known))
    dsimp only
    split
    · exact ⟨_, rfl⟩
    · -- The update returns, and so does the closing of a session that is over.
      obtain ⟨ended, updated⟩ := callbacks.update menu (machine.frame cx)
      generalize descriptor.menu.update menu (machine.frame cx) = result at updated ⊢
      obtain ⟨_, frame⟩ := result
      obtain rfl := updated
      cases ended with
      | false => exact ⟨_, rfl⟩
      | true =>
        obtain ⟨done, closed⟩ := callbacks.close menu frame
        dsimp only
        generalize descriptor.menu.close menu frame = result at closed ⊢
        obtain ⟨_, last⟩ := result
        obtain rfl := closed
        exact ⟨_, rfl⟩

end

section

variable [Host σ] {allowed : Request → Prop} {machine : MenuMachine σ}
  (journals : ∀ severity message, allowed (.record .menus severity message))
  (talks : machine.Talks allowed) (returns : machine.Returns)

include journals

/-- Announcing a menu is talking. -/
theorem announce_spoken (menu : Int32) (name : String) :
    Spoken allowed fun cx => ((), machine.announce menu name cx) := by
  -- A menu that is still open is worth an entry of its own, before the other one.
  unfold announce
  have runs := @Spoken.record σ _ allowed .menus .info
    s!"Running custom script menu {menu.toInt} ({name})" (journals _ _)
  cases machine.state.activeMenu with
  | none => exact runs
  | some active => exact (Spoken.record .menus .warn _ (journals _ _)).andThen fun _ => runs

/-- Ending the session of a menu is talking. -/
theorem finish_spoken (menu : Int32) (state : MenuState) :
    Spoken allowed fun cx => (machine.finish menu { state, context := cx }).split :=
  -- The state is changed without the host, and the entry is all that is said.
  (Spoken.record .menus .info
    s!"Custom script menu {menu.toInt} finished with {state.returnValue.toInt}"
    (journals _ _)).map fun _ =>
      (Except.ok (MenuStep.done state.returnValue),
        { machine with state := { state with activeMenu := none } })

include talks returns

/-- Starting a menu that talks and returns is talking. -/
theorem start_spoken (menu : Int32) :
    Spoken allowed fun cx => (machine.start menu cx).split := by
  unfold start
  cases known : machine.table.lookup menu with
  | error error =>
    exact (Spoken.record .menus .error _ (journals _ _)).map fun _ =>
      (Except.ok (Except.error error), machine)
  | ok descriptor =>
    have member := HandlerTable.mem_of_get known
    have announces : Spoken allowed fun cx => ((), machine.announce menu descriptor.name cx) :=
      announce_spoken journals menu descriptor.name
    have creates := (talks descriptor member).create menu { activeMenu := some menu }
    refine (announces.andThen fun _ => creates.map fun (_, state) =>
      (Except.ok (Except.ok ()), { machine with state })).of_eq fun cx => ?_
    -- Only a halt would be told to the log without a request, and `create` returns.
    obtain ⟨answer, created⟩ := (returns descriptor member).create menu
      { state := { activeMenu := some menu }, context := machine.announce menu descriptor.name cx }
    simp only [MenuReply.split, settle, frame, created, Except.map]

/-- Polling a menu that talks and returns is talking. -/
theorem step_spoken (menu : Int32) :
    Spoken allowed fun cx => (machine.step menu cx).split := by
  -- What is polled in vain is only told to the journal.
  have refuses (message : String) : Spoken allowed fun cx : Context σ =>
      (((Except.ok (MenuStep.done (-1)) : Except Halt MenuStep), machine),
        cx.error .menus message) :=
    (Spoken.record .menus .error message (journals _ _)).map fun _ =>
      (Except.ok (MenuStep.done (-1)), machine)
  unfold step
  cases known : machine.descriptor? menu with
  | none => exact refuses _
  | some descriptor =>
    dsimp only
    split
    · exact refuses _
    · have member := HandlerTable.mem_of_get (HandlerTable.lookup_eq_ok_iff.mpr known)
      have updates := (talks descriptor member).update menu machine.state
      have closes (state : MenuState) := ((talks descriptor member).close menu state).andThen
        fun closed => machine.finish_spoken journals menu closed.2
      -- Whether the session is over decides what follows on the update.
      have settles (updated : Except Halt Bool × MenuState) : Spoken allowed fun cx : Context σ =>
          if updated.1.toOption = some true then
            (machine.finish menu (descriptor.menu.close menu ⟨updated.2, cx⟩).2).split
          else ((Except.ok MenuStep.pending, { machine with state := updated.2 }), cx) := by
        split
        · exact closes updated.2
        · exact Spoken.still (σ := σ) (Except.ok MenuStep.pending, { machine with state := updated.2 })
      refine (updates.andThen settles).of_eq fun cx => ?_
      -- Neither the update nor the closing halts.
      obtain ⟨ended, updated⟩ := (returns descriptor member).update menu (machine.frame cx)
      simp only [frame] at updated ⊢
      generalize descriptor.menu.update menu _ = result at updated ⊢
      obtain ⟨_, after⟩ := result
      obtain rfl := updated
      cases ended with
      | false => rfl
      | true =>
        obtain ⟨done, closed⟩ := (returns descriptor member).close menu after
        dsimp only
        generalize descriptor.menu.close menu after = result at closed ⊢
        obtain ⟨_, last⟩ := result
        obtain rfl := closed
        rfl

end

end MenuMachine

end DungeonHooks
