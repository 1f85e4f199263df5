import DungeonHooks.Proofs.Checked.Operations
import DungeonHooks.Proofs.Menu.Requests
import DungeonHooks.Proofs.Replay.Draw
import DungeonHooks.Proofs.Replay.Panes

/-! The simulated host with checked operations: its draws never overflow, and neither does the rest of it as long as there are handles to give out. -/

namespace DungeonHooks.Replay

open RecruitMenu

namespace SimulatedHost

/-- Draws a value with checked operations. -/
def drawChecked (low high : Int32) (host : SimulatedHost) :
    Except Halt (Int32 × SimulatedHost) :=
  let span := saturatingSub high low
  match host.random with
  | [] => .ok (low, host)
  | value :: random =>
    if 0 < span then do
      let rest ← Checked.remainder value span
      let drawn ← Checked.add low rest
      return (drawn, { host with random })
    else .ok (low, { host with random })

/-- The gender of a form, with a checked way back to the first form. -/
def genderChecked (host : SimulatedHost) (monster : Int32) : Except Halt Gender := do
  let firstForm ← Checked.sub monster secondFormOffset
  return if secondFormOffset < monster && host.dualGender.contains firstForm then .female
    else if host.dualGender.contains monster then .male
    else .invalid

/-- Counts the next handle up. -/
def countHandle (host : SimulatedHost) : Except Halt Int32 :=
  Checked.add (Int32.ofNat host.nextWindow) 1

/-- There are handles left to give out. -/
def HasHandles (host : SimulatedHost) : Prop :=
  host.nextWindow < 2147483648

/-- A frame of input gives out no handles. -/
@[simp] theorem nextWindow_advanceFrame (host : SimulatedHost) :
    host.advanceFrame.nextWindow = host.nextWindow := by
  unfold advanceFrame
  cases host.keyboard <;> rfl

/-- A draw stays between its bounds, so it overflows with none. -/
theorem drawChecked_eq (low high : Int32) (host : SimulatedHost) :
    host.drawChecked low high = .ok (host.draw low high) := by
  unfold drawChecked draw
  cases host.random with
  | nil => rfl
  | cons value random =>
    dsimp only
    split
    case isFalse => rfl
    case isTrue positive =>
      obtain ⟨natural, below⟩ := remainder_within (span_pos_iff.mp positive) value.toInt
      rw [Int32.lt_iff_toInt_lt, Int32.toInt_zero] at positive
      obtain ⟨rest, remains, exact⟩ := @Checked.remainder_eq value _ positive
      -- The sum lies between the bounds, which are words themselves.
      have least := low.minValue_le_toInt
      have greatest := high.toInt_le
      have fits : Checked.Fits (low.toInt + value.toInt % (saturatingSub high low).toInt) := by
        constructor <;> omega
      rw [remains]
      show (Checked.add low rest).bind _ = _
      rw [Checked.add, Checked.exactly, exact, if_pos fits]
      rfl

/-- Every form but the very lowest has a number that a first form could have. -/
theorem genderChecked_eq {monster : Int32} (host : SimulatedHost)
    (back : Checked.Fits (monster.toInt - secondFormOffset.toInt)) :
    host.genderChecked monster = .ok (host.genderOf monster) := by
  rw [genderChecked, Checked.sub_eq back]
  rfl

/-- As long as there are handles left, they are counted up. -/
theorem countHandle_eq {host : SimulatedHost} (left : host.nextWindow + 1 < 2147483648) :
    host.countHandle = .ok (Int32.ofNat host.nextWindow + 1) := by
  have counted : (Int32.ofNat host.nextWindow).toInt = host.nextWindow :=
    Int32.toInt_ofNat_of_lt (by omega)
  have one : (1 : Int32).toInt = 1 := rfl
  exact Checked.add_eq (Checked.fits_iff.mpr (by omega))

end SimulatedHost

end DungeonHooks.Replay

namespace DungeonHooks

open Replay

/-- Puts a request to the simulated host, whose operations are checked. -/
def Request.serveChecked (request : Request) (cx : Context SimulatedHost) :
    Except Halt (request.Answer × Context SimulatedHost) :=
  match request with
  | randRange low high => do
    let (drawn, host) ← cx.host.drawChecked low high
    return (drawn, { cx with host })
  | monsterGender monster => do
    let gender ← cx.host.genderChecked monster
    return (gender, cx)
  | createAdvancedMenu menu => do
    let _ ← cx.host.countHandle
    return (createAdvancedMenu menu).serve cx
  | createSimpleMenu menu => do
    let _ ← cx.host.countHandle
    return (createSimpleMenu menu).serve cx
  | createPortraitBox screen palette framed => do
    let _ ← cx.host.countHandle
    return (createPortraitBox screen palette framed).serve cx
  | request => .ok (request.serve cx)

/-- The request asks for the gender of no monster that is too low for one. -/
def Request.Sensible : Request → Prop
  | .monsterGender monster =>
    Checked.Fits (monster.toInt - RecruitMenu.secondFormOffset.toInt)
  | _ => True

/-- All other requests are sensible. -/
theorem Request.sensible_of_plain {request : Request} (plain : request.asksGender = false) :
    request.Sensible := by
  cases request with
  | monsterGender monster => cases plain
  | _ => trivial

/-- Handles are only ever given out. -/
theorem Request.serve_nextWindow (request : Request) (cx : Context SimulatedHost) :
    cx.host.nextWindow ≤ (request.serve cx).2.host.nextWindow := by
  cases windowless : request.windowless with
  | true => exact Nat.le_of_eq (SimulatedHost.serve_same windowless cx).2
  | false =>
    have closes (kind : WindowKind) (id : WindowId) := Nat.le_of_eq
      (SimulatedHost.nextWindow_closeWindow kind id cx.host).symm
    -- Only windows that are opened take a handle.
    cases request with
    | createAdvancedMenu | createSimpleMenu | createPortraitBox => exact Nat.le_succ _
    | closeAdvancedMenu id => exact closes .advanced id
    | closeSimpleMenu id => exact closes .simple id
    | closePortraitBox id => exact closes .portrait id
    | _ => cases windowless

/-- A draw is served with checked operations as it is without them. -/
theorem Request.serveChecked_randRange (low high : Int32) (cx : Context SimulatedHost) :
    (randRange low high).serveChecked cx = .ok ((randRange low high).serve cx) := by
  rw [serveChecked, SimulatedHost.drawChecked_eq]
  -- A draw adds nothing to the log.
  simp only [serve, Context.call, Host.randRange, Reply.still, List.append_nil]
  rfl

/-- A sensible request is served with checked operations as it is without them, if there are handles left. -/
theorem Request.serveChecked_eq {request : Request} (sensible : request.Sensible)
    {cx : Context SimulatedHost} (left : (request.serve cx).2.host.HasHandles) :
    request.serveChecked cx = .ok (request.serve cx) := by
  cases request with
  | randRange low high => exact serveChecked_randRange low high cx
  | monsterGender monster =>
    rw [serveChecked, SimulatedHost.genderChecked_eq _ sensible]
    rfl
  | createAdvancedMenu menu =>
    rw [serveChecked, SimulatedHost.countHandle_eq left]
    rfl
  | createSimpleMenu menu =>
    rw [serveChecked, SimulatedHost.countHandle_eq left]
    rfl
  | createPortraitBox screen palette framed =>
    rw [serveChecked, SimulatedHost.countHandle_eq left]
    rfl
  | _ => rfl

end DungeonHooks
