import DungeonHooks.Proofs.Checked.Host
import DungeonHooks.Proofs.Effect.Ties
import DungeonHooks.Proofs.Engine.MoveLists
import DungeonHooks.Proofs.Replay.MoveSlots

/-! Moves with checked operations: there is a stat to raise, and the slot of a move is there before and after its handler. -/

namespace DungeonHooks.Checked

open Replay

/-- The stat a draw selects. The first one is read whether it is needed or not. -/
def select (tied : List Stat) (draw : Int32) : Except Halt Stat := do
  let first ← item tied 0
  let index := if draw < 0 then none else tied[draw.toInt.toNat]?
  return index.getD first

/-- Runs after a hit: if the user has the ability and the target is gone, one tied stat is drawn and raised. -/
def checkBeastBoost (cx : Context SimulatedHost) (user target : Entity) :
    Except Halt (Bool × Entity × Context SimulatedHost) :=
  match user.monster with
  | none => .ok (false, user, cx)
  | some monster =>
    if !monster.hasAbility beastBoost || target.valid then .ok (false, user, cx) else do
      let tied := monster.tiedStats
      let cx := cx.tell (Host.logMessage user beastBoostMessage)
      let (draw, cx) ← (Request.randRange 0 (Int32.ofNat tied.length)).serveChecked cx
      let stat ← select tied draw
      let (user, cx) := cx.call (stat.boost user)
      let cx := cx.info .effects s!"Beast Boost raised {stat.describe} ({tied.length} tied)"
      return (true, user, cx)

/-- The user's own copy of a move, from the slot that holds it, or one without any uses. -/
def usedMove (id : UInt16) (user : Entity) : Except Halt Move :=
  match moveSlot id user, user.monster with
  | some slot, some monster => item monster.moves slot
  | _, _ => .ok { id, pp := 0, maxPp := 0 }

/-- Writes the copy of a used move back into the user's list, in the slot that it was taken from. -/
def storeMove (slot : Option Nat) (used : Move) (user : Entity) : Except Halt Entity :=
  match slot, user.monster with
  | some slot, some monster => do
    let moves ← replace monster.moves slot used
    return { user with monster := some { monster with moves } }
  | _, _ => .ok user

/-- What follows on a strike: the copy of the move is written back, and after a hit the ability is checked. -/
def afterStrike (slot : Option Nat) (hit : Bool) (use : MoveUse) (target : Entity)
    (cx : Context SimulatedHost) : Except Halt (Bool × Entity × Context SimulatedHost) := do
  let user ← storeMove slot use.used use.user
  if hit then checkBeastBoost cx user target else return (false, user, cx)

/-- Replays a move with the user's own copy of it. -/
def runMove (step : MoveStep) (report : StepReport) (pair : Entity × Entity) (session : Session) :
    Except Halt (StepReport × Session) :=
  let (user, target) := pair
  let slot := moveSlot step.moveId user
  match usedMove step.moveId user with
  | .error halt => .error halt
  | .ok used =>
    let input : MoveInput := { moveId := step.moveId, itemId := step.itemId }
    let (handled, use, engine, context) :=
      session.engine.moveEffect session.context { input, user, target, used }
    let (hit, target) := step.landed handled use
    match afterStrike slot hit use target context with
    | .error halt => .error halt
    | .ok (boosted, user, context) =>
      let session := { session with engine, context }
      .ok ({ report with handled, detail := step.detail handled boosted },
        session.putPair step.user step.target (user, target))

/-- One of the four stats is the highest, so there is a first one, and any draw selects a stat. -/
theorem select_eq (monster : Monster) (draw : Int32) :
    select monster.tiedStats draw = .ok (Stat.select monster.tiedStats draw) := by
  obtain ⟨first, others, tied⟩ := List.exists_cons_of_ne_nil (tiedStats_ne_nil monster)
  rw [tied]
  rfl

/-- The ability is checked without a failure. -/
theorem checkBeastBoost_eq (cx : Context SimulatedHost) (user target : Entity) :
    checkBeastBoost cx user target = .ok (DungeonHooks.checkBeastBoost cx user target) := by
  unfold checkBeastBoost DungeonHooks.checkBeastBoost
  cases user.monster with
  | none => rfl
  | some monster =>
    dsimp only
    split
    · rfl
    · rw [Request.serveChecked_randRange]
      show (select _ _).bind _ = _
      rw [select_eq]
      rfl

/-- A move that its user knows is found in its slot. -/
theorem usedMove_eq (id : UInt16) (user : Entity) :
    usedMove id user = .ok (Replay.usedMove id user) := by
  unfold usedMove
  cases known : moveSlot id user with
  | some slot =>
    have there := getElem?_of_moveSlot known
    cases held : user.monster with
    | some monster =>
      rw [knownMoves, held] at there
      exact item_eq there
    | none =>
      rw [knownMoves, held] at there
      contradiction
  | none =>
    cases held : user.monster with
    | none => simp only [Replay.usedMove, held, Option.bind_none, Option.getD_none]
    | some monster =>
      -- Without a slot, no move of the list is the one that is looked for.
      simp only [moveSlot, held, Option.bind_some, List.findIdx?_eq_none_iff] at known
      have absent : monster.moves.find? (·.id == id) = none :=
        List.find?_eq_none.mpr (by simpa using known)
      simp only [Replay.usedMove, held, Option.bind_some, absent, Option.getD_none]

/-- A list that is as long as before still has the slot. -/
theorem storeMove_eq {id : UInt16} {before user : Entity}
    (keeps : user.moveCount = before.moveCount) (used : Move) :
    storeMove (moveSlot id before) used user =
      .ok (Replay.storeMove (moveSlot id before) used user) := by
  unfold storeMove Replay.storeMove
  cases known : moveSlot id before with
  | none => rfl
  | some slot =>
    cases held : user.monster with
    | none => rfl
    | some monster =>
      have inside : slot < monster.moves.length := by
        obtain ⟨there, -⟩ := List.getElem?_eq_some_iff.mp (getElem?_of_moveSlot known)
        cases knows : before.monster with
        | none => simp [Entity.moveCount, held, knows] at keeps
        | some knower =>
          have same : monster.moves.length = knower.moves.length := by
            simpa [Entity.moveCount, held, knows] using keeps
          rw [same]
          simpa [knownMoves, knows] using there
      dsimp only
      rw [replace_eq inside]
      rfl

/-- So what follows on the strike does not fail. -/
theorem afterStrike_eq {id : UInt16} {before : Entity} {use : MoveUse}
    (keeps : use.user.moveCount = before.moveCount) (hit : Bool) (target : Entity)
    (cx : Context SimulatedHost) :
    afterStrike (moveSlot id before) hit use target cx =
      let user := Replay.storeMove (moveSlot id before) use.used use.user
      .ok (if hit then DungeonHooks.checkBeastBoost cx user target else (false, user, cx)) := by
  rw [afterStrike, storeMove_eq keeps]
  -- Only after a hit there is an ability to check.
  cases hit with
  | false => rfl
  | true => exact checkBeastBoost_eq ..

/-- A move is replayed without a failure if the handlers leave as many moves. -/
theorem runMove_eq (step : MoveStep) (report : StepReport) (pair : Entity × Entity)
    {session : Session} (keeps : session.engine.KeepsMoves) :
    runMove step report pair session = .ok (Replay.runMove step report pair session) := by
  obtain ⟨user, target⟩ := pair
  have count := keeps.moveEffect_moveCount session.context (step.use (user, target))
  unfold runMove Replay.runMove Struck.check strike
  simp only [usedMove_eq]
  rw [MoveStep.use] at count
  generalize session.engine.moveEffect session.context _ = resolved at count ⊢
  obtain ⟨handled, use, engine, context⟩ := resolved
  simp only [afterStrike_eq count]

end DungeonHooks.Checked
