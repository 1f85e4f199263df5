import DungeonHooks.Menu.Keyboard
import DungeonHooks.Proofs.Menu.Session

/-! Menus around the keyboard leave the session's mark and its windows alone, and act once on the text that was typed. -/

namespace DungeonHooks.TalkingMenu

section

variable {act : String → MenuState → Talk MenuState}

/-- Setting the keyboard up is all that a session begins with. -/
theorem keyboard_create_unmoved (id : Int32) (state : MenuState) :
    ((TalkingMenu.keyboard act).create id state).Always (Unmoved state) :=
  fun _ => ⟨rfl, rfl, by simp [Quiet, Request.windowless]⟩

/-- A frame asks whether the keyboard was dismissed, and acts on the text once it was. -/
theorem keyboard_frame_unmoved (acts : ∀ typed state, (act typed state).Always (Unmoved state))
    (id : Int32) (state : MenuState) :
    ((TalkingMenu.keyboard act).frame id state).Always fun ended => Unmoved state ended.2 := by
  rw [always_frame]
  intro dismissed
  cases dismissed with
  | false => exact ⟨rfl, rfl, by simp [Quiet, Request.windowless]⟩
  | true =>
    intro typed
    refine (acts typed state).mono fun after said unmoved => ⟨unmoved.active, unmoved.windows, ?_⟩
    -- Before what the menu says of its own, there are the two questions about the keyboard.
    simpa [Quiet, Request.windowless] using unmoved.quiet

/-- Such a menu leaves it alone which menu is running. -/
theorem keyboard_steady (acts : ∀ typed state, (act typed state).Always (Unmoved state)) :
    (TalkingMenu.keyboard act).Steady where
  create id state := (keyboard_create_unmoved id state).mono fun _ _ unmoved => unmoved.active
  frame id state := (keyboard_frame_unmoved acts id state).mono fun _ _ unmoved => unmoved.active

/-- Comparing the password asks for nothing. -/
theorem password_steady (password : String) : (TalkingMenu.password password).Steady :=
  keyboard_steady fun _ _ => ⟨rfl, rfl, by simp [Quiet]⟩

/-- Renaming the partner is no matter of the session. -/
theorem partnerName_steady : TalkingMenu.partnerName.Steady :=
  keyboard_steady fun _ _ _ _ _ => ⟨rfl, rfl, by simp [Quiet, Request.windowless]⟩

end

section

variable {σ : Type} [Host σ] {act : String → MenuState → Talk MenuState} {id : Int32}
  {machine : MenuMachine σ}

/-- A frame waits until the keyboard was dismissed, and then closes the menu. -/
theorem keyboard_frame (id : Int32) (state : MenuState) (cx : Context σ) :
    let held := ((TalkingMenu.keyboard act).frame id state).hold cx
    let closed := ((TalkingMenu.keyboard act).close id state).hold cx
    (Host.keyboardDismissed cx.host = false → held.value = (false, state) ∧ held.context = cx) ∧
      (Host.keyboardDismissed cx.host = true →
        held.value = (true, closed.value) ∧ held.context = closed.context) := by
  intro held closed
  -- The question whether it was leaves the context as it is.
  have update : ((TalkingMenu.keyboard act).update id state).hold cx =
      { value := (Host.keyboardDismissed cx.host, state)
        transcript := [⟨.keyboardDismissed, Host.keyboardDismissed cx.host⟩]
        context := cx } := rfl
  constructor
  · intro waits
    simp [held, frame, Talk.hold_bind, update, waits]
  · intro dismissed
    simp [held, closed, frame, Talk.hold_bind, update, dismissed]

/-- A poll is the last one, and closes the menu, once the keyboard was dismissed. -/
theorem keyboard_step (running : machine.Running (.keyboard act) id) (cx : Context σ) :
    let closed := ((TalkingMenu.keyboard act).close id machine.state).hold cx
    (Host.keyboardDismissed cx.host = false → (machine.step id cx).answer = .ok .pending) ∧
      (Host.keyboardDismissed cx.host = true →
        (machine.step id cx).answer = .ok (.done closed.value.returnValue) ∧
          (machine.step id cx).context.host = closed.context.host) := by
  intro closed
  obtain ⟨answer, -, host⟩ := MenuMachine.step_running running cx
  obtain ⟨waiting, closing⟩ := @keyboard_frame _ _ act id machine.state cx
  constructor
  · intro waits
    rw [answer, (waiting waits).1]
    rfl
  · intro dismissed
    obtain ⟨value, context⟩ := closing dismissed
    rw [answer, host, value, context]
    exact ⟨rfl, rfl⟩

end

end DungeonHooks.TalkingMenu
