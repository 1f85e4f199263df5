import DungeonHooks.Host.Scripted
import DungeonHooks.Proofs.Menu.Keyboard
import DungeonHooks.Proofs.Text.Compare

/-! The password menu lets a text pass that agrees with the password as far as strings of its length are compared. -/

namespace DungeonHooks

open Text

variable {σ : Type} [Host σ]

/-- A session of the password menu ends with the comparison of what was typed, and with 0 for just those texts that agree with the password in their first bytes. -/
theorem password_checked {password : String} {machine : MenuMachine σ} {id : Int32}
    {said : List Exchange} (session : (TalkingMenu.password password).Session id machine said)
    (cx : Context σ) :
    let answer := (machine.step id cx).answer
    let dismissed := Host.keyboardDismissed cx.host
    let typed := utf8 (Host.keyboardText cx.host)
    (∀ n, ComparesStrings n) ∧
      (dismissed = false → answer = .ok .pending) ∧
      (dismissed = true →
        answer = .ok (.done (compareBounded nameLength typed (utf8 password)))) ∧
      (answer = .ok (.done 0) ↔
        dismissed = true ∧ bounded nameLength typed = bounded nameLength (utf8 password)) := by
  intro answer dismissed typed
  obtain ⟨waiting, closing⟩ :=
    TalkingMenu.keyboard_step (session.running (TalkingMenu.password_steady password)) cx
  have compares : dismissed = true →
      answer = .ok (.done (compareBounded nameLength typed (utf8 password))) :=
    fun typing => (closing typing).1
  -- A session that goes on has no value yet, and one that ends has that of the comparison.
  refine ⟨comparesStrings, waiting, compares, ?_⟩
  rw [← (comparesStrings nameLength).zero_iff]
  cases typing : dismissed with
  | false =>
    have pending : answer = .ok .pending := waiting typing
    simp [pending, MenuStep.pending, MenuStep.done]
  | true => simp [compares typing, MenuStep.done]

/-- A frame in which the keyboard was dismissed with a text. -/
private def entered (keyboardText : String) : Context ScriptedHost :=
  { host := { keyboardText, keyboardDone := true } }

/-- Texts pass that have half of their tenth character in common. -/
theorem half_character_passes :
    ∃ (machine : MenuMachine ScriptedHost) (said : List Exchange),
      (TalkingMenu.password "123456789é").Session 80 machine said ∧
        (machine.step 80 (entered "123456789è")).answer = .ok (.done 0) := by
  let menus : MenuMachine ScriptedHost :=
    .new 80 [{ name := "Password", menu := .password "123456789é" }]
  have opened : (TalkingMenu.password "123456789é").Session 80 (menus.start 80 _).machine _ :=
    .started rfl rfl { host := ({} : ScriptedHost) }
  exact ⟨_, _, opened,
    (password_checked opened (entered "123456789è")).2.2.2.mpr (by decide +kernel)⟩

end DungeonHooks
