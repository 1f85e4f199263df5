import DungeonHooks.Effect.Event
import DungeonHooks.Script.Store

/-! Entities, items and moves as the tables that a script sees, and what is taken back from those. -/

namespace DungeonHooks.Script

namespace Store

/-- Adds a table for a move. -/
def addMove (store : Store) (move : Move) : Nat × Store :=
  store.addRecord
    [ ("id", .ofInt move.id.toNat),
      ("pp", .ofInt move.pp.toNat),
      ("max_pp", .ofInt move.maxPp.toNat) ]

/-- Adds a table for an item. -/
def addItem (store : Store) (item : Item) : Nat × Store :=
  store.addRecord
    [ ("id", .ofInt item.id.toNat),
      ("quantity", .ofInt item.quantity.toNat) ]

/-- Adds a table of moves from a slot on, each with a table of its own. -/
def addMoves (store : Store) (slot : Nat) : List Move → List (Key × Value) × Store
  | [] => ([], store)
  | move :: rest =>
    let (id, store) := store.addMove move
    let (entries, store) := store.addMoves (slot + 1) rest
    ((.whole slot, .table id) :: entries, store)

/-- Adds a table for an entity. Only one with a monster has more than its validity. -/
def addEntity (store : Store) (entity : Entity) : Nat × Store :=
  let valid := ("valid", Value.bool entity.valid)
  match entity.monster with
  | none => store.addRecord [valid]
  | some monster =>
    let (entries, store) := store.addMoves 1 monster.moves
    let (moves, store) :=
      store.addTable (entries.foldl (fun table (key, value) => table.set key value) {})
    store.addRecord
      [ valid,
        ("species", .ofInt monster.species.toInt),
        ("hp", .ofInt monster.hp.toInt),
        ("max_hp", .ofInt monster.maxHp.toInt),
        ("atk", .ofInt monster.attack.toInt),
        ("def", .ofInt monster.defense.toInt),
        ("sp_atk", .ofInt monster.specialAttack.toInt),
        ("sp_def", .ofInt monster.specialDefense.toInt),
        ("moves", .table moves) ]

/-- The value of a named entry of a table. -/
def read (store : Store) (id : Nat) (name : String) : Value :=
  store.get id (field name)

/-- The table that a value is, if it is not nil. -/
def readTable (value : Value) : Except ConversionError (Option Nat) :=
  match value with
  | .nil => .ok none
  | .table id => .ok (some id)
  | value => .error (value.misfit .table .otherType)

/-- Takes back what a script may change of a move: the uses left and their maximum. -/
def readMove (store : Store) (id : Nat) (move : Move) : Except ConversionError Move := do
  let pp ← (store.read id "pp").toByte
  let maxPp ← (store.read id "max_pp").toByte
  return { move with pp, maxPp }

/-- Takes back what a script may change of an item: the quantity. -/
def readItem (store : Store) (id : Nat) (item : Item) : Except ConversionError Item := do
  let quantity ← (store.read id "quantity").toWord16
  return { item with quantity }

/-- Takes back moves from a slot on; one without a table stays as it was. -/
def readMoves (store : Store) (id slot : Nat) : List Move → Except ConversionError (List Move)
  | [] => .ok []
  | move :: rest => do
    let move ← match ← readTable (store.get id (.whole slot)) with
      | some entry => store.readMove entry move
      | none => .ok move
    return move :: (← store.readMoves id (slot + 1) rest)

/-- Takes back what a script may change of a monster: hit points, stats and moves. -/
def readMonster (store : Store) (id : Nat) (monster : Monster) :
    Except ConversionError Monster := do
  let hp ← (store.read id "hp").toWord
  let maxHp ← (store.read id "max_hp").toWord
  let attack ← (store.read id "atk").toWord
  let defense ← (store.read id "def").toWord
  let specialAttack ← (store.read id "sp_atk").toWord
  let specialDefense ← (store.read id "sp_def").toWord
  let moves ← match ← readTable (store.read id "moves") with
    | some moves => store.readMoves moves 1 monster.moves
    | none => .ok monster.moves
  return { monster with hp, maxHp, attack, defense, specialAttack, specialDefense, moves }

/-- Takes back what a script may change of an entity. -/
def readEntity (store : Store) (id : Nat) (entity : Entity) : Except ConversionError Entity := do
  let valid := (store.read id "valid").isTrue
  let monster ← match entity.monster with
    | some monster => some <$> store.readMonster id monster
    | none => .ok none
  return { valid, monster }

end Store

end DungeonHooks.Script
