import DungeonHooks.Proofs.Replay.BeastBoost
import DungeonHooks.Script.Load
import DungeonHooks.Script.Resolver

/-! Two copies of a used move: which of them the user has after the turn. -/

namespace DungeonHooks.Replay

/-- The use of a move as a step puts it to the chain, with a copy of the move next to the user's own. -/
def MoveStep.use (step : MoveStep) (pair : Entity × Entity) : MoveUse where
  input := { moveId := step.moveId, itemId := step.itemId }
  user := pair.1
  target := pair.2
  used := usedMove step.moveId pair.1

/-- The use of a move as the chain leaves it. -/
def MoveStep.left (step : MoveStep) (pair : Entity × Entity) (session : Session) : MoveUse :=
  (session.engine.moveEffect session.context (step.use pair)).2.1

/-- The moves that an entity knows; without a monster it knows none. -/
def knownMoves (entity : Entity) : List Move :=
  (entity.monster.map (·.moves)).getD []

/-- The moves that a named entity of the session knows. -/
def Session.knownMoves (session : Session) (name : String) : List Move :=
  (session.entities[name]?.map Replay.knownMoves).getD []

/-- The simulated host takes note of a boost and leaves the user alone. -/
theorem call_boost (cx : Context SimulatedHost) (stat : Stat) (user : Entity) :
    (cx.call (stat.boost user)).1 = user := by
  -- The stat decides which of the host's services is called.
  cases stat <;> rfl

/-- So a check of the ability leaves the user alone, whether the ability acts or not. -/
theorem Struck.check_user (struck : Struck) : struck.check.2.1 = struck.user := by
  unfold check checkBeastBoost
  cases struck.hit with
  | false => rfl
  | true =>
    cases struck.user.monster with
    | none => rfl
    | some monster =>
      rw [if_pos rfl]
      dsimp only
      split
      · rfl
      · exact call_boost _ _ _

/-- Storing a copy of a move puts it into its slot, if there is a list with the slot. -/
theorem knownMoves_storeMove (slot : Nat) (used : Move) (user : Entity) :
    knownMoves (storeMove (some slot) used user) = (knownMoves user).set slot used := by
  unfold storeMove knownMoves
  cases held : user.monster with
  | none => simp [held]
  | some monster => rfl

/-- A slot that holds a move is one of the list, and holds the copy that is used. -/
theorem getElem?_of_moveSlot {id : UInt16} {user : Entity} {slot : Nat}
    (known : moveSlot id user = some slot) :
    (knownMoves user)[slot]? = some (usedMove id user) := by
  unfold moveSlot at known
  unfold usedMove knownMoves
  cases held : user.monster with
  | none => simp [held] at known
  | some monster =>
    simp only [held, Option.bind_some] at known
    obtain ⟨inside, holds, earlier⟩ := List.findIdx?_eq_some_iff_getElem.mp known
    -- The first slot that holds the move is where the copy is taken from.
    have copied : monster.moves.find? (·.id == id) = some monster.moves[slot] :=
      List.find?_eq_some_iff_getElem.mpr ⟨holds, slot, inside, rfl, by simpa using earlier⟩
    simp [copied, inside]

/-- Nobody strikes itself, so the user is still there when the target has been written back. -/
theorem Session.pair_ne {session : Session} {user target : String} {pair : Entity × Entity}
    (found : session.pair user target = .ok pair) : user ≠ target := by
  rintro rfl
  simp [Session.pair] at found

/-- After a turn with a move, the user is as the chain left it, with the separate copy stored. -/
theorem Turn.Taken.user {turn : Turn} (taken : turn.Taken) {step : MoveStep}
    (moves : turn.step = .useMove step) {pair : Entity × Entity}
    (found : turn.before.pair step.user step.target = .ok pair) :
    turn.after.entities[step.user]? =
      some (storeMove (moveSlot step.moveId pair.1) (step.left pair turn.before).used
        (step.left pair turn.before).user) := by
  obtain ⟨index, same, found', -, entities⟩ := taken.move moves
  cases found.symm.trans found'
  have apart : step.target ≠ step.user := (Session.pair_ne found).symm
  rw [entities]
  simp only [runMove, Session.putPair, Struck.check_user]
  rw [Std.TreeMap.getElem?_insert]
  simp [apart]
  rfl

/-- What a turn makes of the two copies of a used move: the separate one is stored over the user's own. -/
structure Turn.StoresCopy (turn : Turn) (step : MoveStep) (pair : Entity × Entity) (slot : Nat) :
    Prop where
  /-- Every other slot is what the chain left there. -/
  others : ∀ other, other ≠ slot → (turn.after.knownMoves step.user)[other]? =
    (knownMoves (step.left pair turn.before).user)[other]?
  /-- The slot holds what the chain left of the separate copy. -/
  copy : (turn.after.knownMoves step.user)[slot]? = some (step.left pair turn.before).used
  /-- So whatever was done to the slot alone is undone. -/
  undone : (step.left pair turn.before).used = usedMove step.moveId pair.1 →
    (turn.after.knownMoves step.user)[slot]? = (knownMoves pair.1)[slot]?

/-- In every replay, a move that its user knows is stored from the separate copy, and the other moves are as the chain leaves them, as long as it leaves as many. -/
theorem used_move_stored {scenario : Scenario} {engine : Engine SimulatedHost}
    {context : Context SimulatedHost} {turn : Turn} {step : MoveStep} {pair : Entity × Entity}
    {slot : Nat} (member : turn ∈ scenario.turns engine context)
    (moves : turn.step = .useMove step)
    (found : turn.before.pair step.user step.target = .ok pair)
    (known : moveSlot step.moveId pair.1 = some slot)
    (keeps : (knownMoves (step.left pair turn.before).user).length = (knownMoves pair.1).length) :
    turn.StoresCopy step pair slot := by
  have after : turn.after.knownMoves step.user =
      let left := step.left pair turn.before
      (knownMoves left.user).set slot left.used := by
    rw [Session.knownMoves, (turns_taken member).user moves found, known, Option.map_some,
      Option.getD_some, knownMoves_storeMove]
  have own : (knownMoves pair.1)[slot]? = some (usedMove step.moveId pair.1) :=
    getElem?_of_moveSlot known
  -- The list that is left still has the slot.
  have inside : slot < (knownMoves (step.left pair turn.before).user).length := by
    rw [keeps]
    exact (List.getElem?_eq_some_iff.mp own).choose
  refine ⟨fun other distinct => ?_, ?_, fun unchanged => ?_⟩
  · rw [after, List.getElem?_set_ne distinct.symm]
  · rw [after, List.getElem?_set_self inside]
  · rw [after, List.getElem?_set_self inside, unchanged, own]

/-- Claims a move after refilling all moves in the user's list. -/
def refillScript : String :=
  "move_effects[#\"pound\"] = function(user) " ++
    "for _, known in ipairs(user.moves) do known.pp = known.max_pp end return true end"

/-- An engine with the script that refills, if it can be loaded. -/
def refilling : Engine SimulatedHost :=
  .new {} .builtin ((Script.load "refill" refillScript).toOption.toList.map (·.resolver))

/-- Someone with two moves that are almost used up. -/
def tired : Entity :=
  .ofMonster { hp := 20, maxHp := 20, moves := [⟨5, 2, 35⟩, ⟨45, 1, 40⟩] }

/-- Someone to use the move on. -/
def rested : Entity :=
  .ofMonster { hp := 5, maxHp := 5 }

/-- The first of two moves is used, and refills both. -/
def refill : MoveStep where
  user := "hero"
  target := "foe"
  moveId := 5

/-- A scenario in which the move that refills is used once. -/
def refilled : Scenario where
  name := "refilled"
  world := { entities := Std.TreeMap.ofList [("hero", tired), ("foe", rested)] }
  steps := [.useMove refill]

/-- The turn that refills both moves stores the old copy over one of them. -/
theorem refilled_used_move_stored :
    ∃ turn ∈ refilled.turns refilling { host := refilled.world.host },
      turn.step = .useMove refill ∧ turn.before.pair "hero" "foe" = .ok (tired, rested) ∧
        moveSlot refill.moveId tired = some 0 ∧
        (knownMoves (refill.left (tired, rested) turn.before).user).length =
          (knownMoves tired).length ∧
        turn.StoresCopy refill (tired, rested) 0 := by
  have taken : ∃ turn ∈ refilled.turns refilling { host := refilled.world.host },
      turn.step = .useMove refill ∧ turn.before.pair "hero" "foe" = .ok (tired, rested) ∧
        (knownMoves (refill.left (tired, rested) turn.before).user).length =
          (knownMoves tired).length := by
    decide +kernel
  obtain ⟨turn, member, moves, found, keeps⟩ := taken
  exact ⟨turn, member, moves, found, rfl, keeps, used_move_stored member moves found rfl keeps⟩

/-- The list was refilled and the copy was not, and it is the copy that is kept, though the move was claimed. -/
theorem refill_of_used_move_lost :
    ∃ turn ∈ refilled.turns refilling { host := refilled.world.host },
      turn.report.handled = true ∧ turn.before.pair "hero" "foe" = .ok (tired, rested) ∧
        (refill.left (tired, rested) turn.before).used = usedMove refill.moveId tired ∧
        knownMoves (refill.left (tired, rested) turn.before).user =
          [⟨5, 35, 35⟩, ⟨45, 40, 40⟩] ∧
        turn.after.knownMoves "hero" = [⟨5, 2, 35⟩, ⟨45, 40, 40⟩] := by
  decide +kernel

end DungeonHooks.Replay
