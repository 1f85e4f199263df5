import DungeonHooks.Proofs.Checked.Host

/-! Talks with checked operations: where none of them fails, they go as the talks without checks. -/

namespace DungeonHooks

open Replay

/-- A talk that stops where one of its own operations fails. -/
abbrev CheckedTalk : Type → Type :=
  ExceptT Halt Talk

namespace Talk

variable {α β : Type}

/-- Holds a talk with the simulated host, up to the first operation that fails on either side. -/
def holdChecked : Talk (Except Halt α) → Context SimulatedHost →
    Except Halt α × Context SimulatedHost
  | done outcome, cx => (outcome, cx)
  | ask request next, cx =>
    match request.serveChecked cx with
    | .error halt => (.error halt, cx)
    | .ok (answer, cx) => (next answer).holdChecked cx

/-- Handles are only ever given out. -/
theorem keptHandles : Kept (σ := SimulatedHost) (fun _ => True) fun before after =>
    before.nextWindow ≤ after.nextWindow where
  refl _ := Nat.le_refl _
  trans := Nat.le_trans
  serve request _ _ := request.serve_nextWindow _

/-- So a talk takes none back. -/
theorem hold_nextWindow (talk : Talk α) (cx : Context SimulatedHost) :
    cx.host.nextWindow ≤ (talk.hold cx).context.host.nextWindow :=
  talk.uses_any.hold_keeps keptHandles cx

/-- A request that is served goes on with the rest of the talk. -/
theorem holdChecked_ask {asked : Request} {next : asked.Answer → Talk (Except Halt α)}
    {cx after : Context SimulatedHost} {answer : asked.Answer}
    (served : asked.serveChecked cx = .ok (answer, after)) :
    (ask asked next).holdChecked cx = (next answer).holdChecked after := by
  rw [holdChecked, served]

/-- What follows on a talk that comes to its end is held after it. -/
theorem holdChecked_bind {checked : CheckedTalk α} {next : α → CheckedTalk β}
    {cx after : Context SimulatedHost} {value : α}
    (first : checked.run.holdChecked cx = (.ok value, after)) :
    (checked >>= next).run.holdChecked cx = (next value).run.holdChecked after := by
  show (checked.run.bind (ExceptT.bindCont next)).holdChecked cx = _
  generalize checked.run = talk at first ⊢
  -- Each request of the first talk is served, since otherwise it would not end in a value.
  induction talk generalizing cx with
  | done outcome =>
    obtain ⟨rfl, rfl⟩ := Prod.mk.inj first
    rfl
  | ask request rest ih =>
    cases served : request.serveChecked cx with
    | error halt => simp [holdChecked, served] at first
    | ok answered =>
      rw [holdChecked_ask served] at first
      exact (holdChecked_ask served).trans (ih _ first)

end Talk

/-- Held with checks, a talk comes to the same end as another one without them, if there are handles enough for it. -/
def Smooth {α : Type} (checked : CheckedTalk α) (plain : Talk α) (cx : Context SimulatedHost) :
    Prop :=
  (plain.hold cx).context.host.HasHandles →
    checked.run.holdChecked cx = (.ok (plain.hold cx).value, (plain.hold cx).context)

namespace Smooth

variable {α β : Type} {cx : Context SimulatedHost}

/-- A talk that is over needs no checks. -/
theorem done (value : α) : Smooth (pure value) (.done value) cx :=
  fun _ => rfl

/-- A check that passes is followed by what it is a check for. -/
theorem check {outcome : Except Halt β} {value : β} {next : β → CheckedTalk α} {plain : Talk α}
    (passes : outcome = .ok value) (rest : Smooth (next value) plain cx) :
    Smooth (liftM outcome >>= next) plain cx := by
  intro left
  subst passes
  exact rest left

/-- A choice is smooth if both of its ways are. -/
theorem choice {condition : Prop} [Decidable condition] {checked other : CheckedTalk α}
    {plain plainOther : Talk α} (yes : condition → Smooth checked plain cx)
    (no : ¬ condition → Smooth other plainOther cx) :
    Smooth (if condition then checked else other) (if condition then plain else plainOther) cx := by
  split
  case isTrue holds => exact yes holds
  case isFalse fails => exact no fails

/-- Talks that follow on each other are smooth if each of them is. -/
theorem bind {checked : CheckedTalk α} {plain : Talk α} {next : α → CheckedTalk β}
    {plainNext : α → Talk β} (first : Smooth checked plain cx)
    (rest : Smooth (next (plain.hold cx).value) (plainNext (plain.hold cx).value)
      (plain.hold cx).context) : Smooth (checked >>= next) (plain.bind plainNext) cx := by
  intro left
  rw [Talk.hold_bind] at left ⊢
  -- The handles that are left in the end were left in between.
  rw [Talk.holdChecked_bind (first (Nat.lt_of_le_of_lt (Talk.hold_nextWindow _ _) left))]
  exact rest left

/-- A sensible request is served as it is without checks. -/
theorem request {asked : Request} (sensible : asked.Sensible) :
    Smooth (liftM (Talk.request asked)) (Talk.request asked) cx :=
  fun left => Talk.holdChecked_ask (Request.serveChecked_eq sensible left)

/-- A request is followed by the rest of the talk, which has its answer. -/
theorem ask {asked : Request} {next : asked.Answer → CheckedTalk α}
    {plain : asked.Answer → Talk α} (sensible : asked.Sensible)
    (rest : Smooth (next (asked.serve cx).1) (plain (asked.serve cx).1) (asked.serve cx).2) :
    Smooth (liftM (Talk.request asked) >>= next) ((Talk.request asked).bind plain) cx :=
  (request sensible).bind rest

/-- A talk of sensible requests that makes no operations of its own is smooth. -/
theorem lift {plain : Talk α} (uses : plain.Uses Request.Sensible) :
    Smooth (liftM plain) plain cx := by
  induction plain generalizing cx with
  | done value => exact .done value
  | ask asked next ih =>
    -- What is asked first is asked by the checked talk as well.
    exact @ask _ _ asked (fun answer => liftM (next answer)) next uses.1 (ih _ (uses.2 _))

end Smooth

end DungeonHooks
