import DungeonHooks.World

/-! The events that effect handlers resolve. -/

namespace DungeonHooks

/-- An item used by one entity on another. -/
structure ItemUse where
  user : Entity
  target : Entity
  item : Item
  deriving DecidableEq, Inhabited

/-- What the host shares with a move effect; the host orders later stages by `dealtDamage`. -/
structure MoveInput where
  moveId : UInt16 := 0
  itemId : UInt16 := 0
  dealtDamage : Bool := false
  deriving DecidableEq, Inhabited

/-- A move used by one entity on another, with a copy of the move itself. -/
structure MoveUse where
  input : MoveInput
  user : Entity
  target : Entity
  used : Move
  deriving DecidableEq, Inhabited

/-- A special process asked for by a script. -/
structure ProcessCall where
  id : UInt32
  first : Int16 := 0
  second : Int16 := 0
  deriving DecidableEq, Inhabited

/-- What came of a special process; the value reaches the script either way. -/
structure ProcessOutcome where
  handled : Bool
  value : Int32
  deriving DecidableEq, Inhabited

end DungeonHooks
