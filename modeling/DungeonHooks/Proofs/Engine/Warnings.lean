import DungeonHooks.Proofs.Effect.Processes
import DungeonHooks.Proofs.Engine.Program
import DungeonHooks.Proofs.Menu.Requests

/-! Warnings about special processes: the chain warns once of each that nobody claims, and nothing else does. -/

namespace DungeonHooks

universe u

/-- The entry is a warning about a special process. -/
def JournalEntry.alarms (entry : JournalEntry) : Bool :=
  entry.category == .specialProcess && entry.severity == .warn

/-- One journal goes on from another with so many more warnings about special processes. -/
structure Journal.Warned (count : Nat) (before after : Journal) : Prop where
  enabled : after.enabled = before.enabled
  /-- A disabled journal keeps none of them. -/
  kept : after.count .specialProcess .warn =
    before.count .specialProcess .warn + if before.enabled then count else 0

namespace Journal.Warned

variable {before between after : Journal} {count more : Nat}

/-- A journal that stays the same has been warned of nothing. -/
theorem refl (journal : Journal) : Warned 0 journal journal :=
  ⟨rfl, by simp⟩

/-- Warnings add up. -/
theorem trans (first : Warned count before between) (later : Warned more between after) :
    Warned (count + more) before after := by
  refine ⟨later.enabled.trans first.enabled, ?_⟩
  rw [later.kept, first.kept, first.enabled]
  -- A journal is enabled throughout or not at all.
  split <;> omega

/-- What comes before the warnings adds none to them. -/
theorem after_none (first : Warned 0 before between) (later : Warned count between after) :
    Warned count before after := by
  simpa using first.trans later

/-- An entry is such a warning or it is not. -/
theorem keep (journal : Journal) (entry : JournalEntry) :
    Warned (if entry.alarms then 1 else 0) journal (journal.keep entry) := by
  cases enabled : journal.enabled with
  | false => exact ⟨by simp [Journal.keep, enabled], by simp [Journal.keep, enabled]⟩
  | true =>
    refine ⟨by simp [Journal.keep, enabled], ?_⟩
    simp [Journal.keep, Journal.count, enabled, List.countP_append, List.countP_singleton,
      JournalEntry.alarms]

end Journal.Warned

open Journal

section

variable {σ : Type} {α : Type u} [Host σ]

/-- The warnings are the only requests that warn the journal of a special process. -/
theorem Request.serve_warned {request : Request} (calm : request.alarms = false) (cx : Context σ) :
    Warned 0 cx.journal (request.serve cx).2.journal := by
  cases request with
  | record category severity message =>
    have other : ({ category, severity, message } : JournalEntry).alarms = false :=
      (Bool.and_comm ..).trans calm
    have kept := Warned.keep cx.journal { category, severity, message }
    rwa [other] at kept
  -- No other request reaches the journal.
  | _ => exact .refl cx.journal

/-- A talk without such warnings warns of nothing. -/
theorem Talk.Uses.hold_warned {talk : Talk α}
    (uses : talk.Uses fun request => request.alarms = false) (cx : Context σ) :
    Warned 0 cx.journal (talk.hold cx).context.journal := by
  induction talk generalizing cx with
  | done value => exact .refl cx.journal
  | ask request next ih =>
    -- The first request leaves the journal from which the rest goes on.
    exact (request.serve_warned uses.1 cx).after_none (ih _ (uses.2 _) _)

/-- An action that is only such a talk warns of nothing. -/
theorem Spoken.warned {act : Context σ → α × Context σ}
    (spoken : Spoken (fun request => request.alarms = false) act) (cx : Context σ) :
    Warned 0 cx.journal (act cx).2.journal := by
  obtain ⟨talk, uses, held⟩ := spoken
  rw [held]
  exact uses.hold_warned cx

end

section Process

variable {σ : Type} [Host σ] {engine : Engine σ}

/-- A special process adds one warning if it is put to the chain and nobody claims it, else none. -/
theorem Engine.handleSpecialProcess_warned
    (talks : engine.Talks fun request => request.alarms = false) (cx : Context σ)
    (call : ProcessCall) :
    Warned (if engine.settings.specialProcessThreshold ≤ call.id ∧
        AllDecline (call.verdicts engine.effects.resolvers cx) then 1 else 0)
      cx.journal (engine.handleSpecialProcess cx call).2.2.journal := by
  by_cases reached : engine.settings.specialProcessThreshold ≤ call.id
  · -- The announcement is no warning, and neither is what the resolvers say.
    have announced := Warned.keep cx.journal
      { category := .specialProcess, severity := .info, message := call.announced }
    have asked := Spoken.warned (consult_spoken (Resolver.asking_process call) talks.effects 0)
      (cx.info .specialProcess call.announced)
    have decides : _ ↔ AllDecline (call.verdicts engine.effects.resolvers cx) :=
      consult_unclaimed_iff
    rw [Engine.handleSpecialProcess_custom reached rfl]
    simp only [reached, true_and, ← decides]
    generalize consult (Resolver.process call) engine.effects.resolvers
      (cx.info .specialProcess call.announced) 0 = settled at asked ⊢
    have heard : Warned 0 cx.journal settled.context.journal := announced.after_none asked
    cases claimed : settled.claimant.isSome with
    | true => exact heard
    | false =>
      exact heard.after_none (.keep settled.context.journal
        { category := .specialProcess, severity := .warn, message := call.unhandled })
  · rw [Engine.handleSpecialProcess_native (UInt32.not_le.mp reached)]
    simpa [reached] using Warned.refl cx.journal

end Process

/-- No built-in menu warns of a special process. -/
theorem MenuMachine.builtin_calm {σ : Type} [Host σ] (first : Int32) :
    (MenuMachine.builtin first : MenuMachine σ).Talks fun request => request.alarms = false :=
  builtin_uses (fun _ calm _ _ => calm) (fun _ => rfl) (fun _ _ => rfl) (fun _ => rfl) first

end DungeonHooks
