import DungeonHooks.Saturating

/-! The things handlers read and change: monsters with their moves, entities, items, recruits. -/

namespace DungeonHooks

/-- A move a monster knows, with the uses it has left. -/
structure Move where
  id : UInt16
  pp : UInt8
  maxPp : UInt8
  deriving DecidableEq, Inhabited

/-- Raises the uses left by an amount, up to the maximum; uses already above it stay. -/
def Move.restorePp (move : Move) (amount : UInt8) : Move :=
  { move with pp := max move.pp (min (saturatingAddByte move.pp amount) move.maxPp) }

/-- The two abilities of a monster. -/
structure Abilities where
  first : UInt8 := 0
  second : UInt8 := 0
  deriving DecidableEq, Inhabited

/-- The fighting side of an entity. -/
structure Monster where
  species : Int32 := 0
  hp : Int32 := 0
  maxHp : Int32 := 0
  attack : Int32 := 0
  defense : Int32 := 0
  specialAttack : Int32 := 0
  specialDefense : Int32 := 0
  abilities : Abilities := {}
  moves : List Move := []
  deriving DecidableEq, Inhabited

/-- Whether either ability slot holds the ability. -/
def Monster.hasAbility (monster : Monster) (ability : UInt8) : Bool :=
  monster.abilities.first == ability || monster.abilities.second == ability

/-- Something on the floor of a dungeon: a monster, or a thing without one. -/
structure Entity where
  valid : Bool := true
  monster : Option Monster := none
  deriving DecidableEq, Inhabited

/-- A valid entity with a monster. -/
def Entity.ofMonster (monster : Monster) : Entity :=
  { monster := some monster }

/-- A stack of one kind of item. -/
structure Item where
  id : UInt16 := 0
  quantity : UInt16 := 0
  deriving DecidableEq, Inhabited

/-- A new team member, as it is written into a roster slot. -/
structure Recruit where
  species : Int32
  name : String
  joinedAt : UInt16
  joinedAtFloor : UInt8
  level : UInt8
  deriving DecidableEq, Inhabited

end DungeonHooks
