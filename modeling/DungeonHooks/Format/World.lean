import DungeonHooks.Host.Basic
import DungeonHooks.Json.Decode
import DungeonHooks.Json.Value
import DungeonHooks.Settings

/-! How settings, entities, items and recruits are written in documents. -/

namespace DungeonHooks.Format

open Json

/-- A 32-bit word. -/
def ofWord (n : Int32) : Value := .number n.toInt

/-- An unsigned 16-bit word. -/
def ofWord16 (n : UInt16) : Value := .number n.toNat

/-- A byte. -/
def ofByte (n : UInt8) : Value := .number n.toNat

/-- A size. -/
def ofSize (n : Nat) : Value := .number n

/-- Settings; what is left out keeps its default. -/
def settings : Shape Settings where
  title := "struct RuntimeConfig"
  start := {}
  fields :=
    [ .optional "first_custom_opcode" int fun value s => { s with firstCustomOpcode := value },
      .optional "first_custom_menu" int fun value s => { s with firstCustomMenu := value },
      .optional "special_process_threshold" word32 fun value s =>
        { s with specialProcessThreshold := value },
      .optional "keyboard_fallback_mode" int fun value s =>
        { s with keyboardFallbackMode := value },
      .optional "journal" boolean fun value s => { s with journal := value } ]

/-- Settings as a value. -/
def ofSettings (s : Settings) : Value :=
  .record
    [ ("first_custom_opcode", ofWord s.firstCustomOpcode),
      ("first_custom_menu", ofWord s.firstCustomMenu),
      ("special_process_threshold", .number s.specialProcessThreshold.toNat),
      ("keyboard_fallback_mode", ofWord s.keyboardFallbackMode),
      ("journal", .bool s.journal) ]

/-- A move. -/
def move : Shape Move where
  title := "struct Move"
  start := { id := 0, pp := 0, maxPp := 0 }
  fields :=
    [ .mandatory "id" word16 fun value m => { m with id := value },
      .mandatory "pp" byte fun value m => { m with pp := value },
      .mandatory "max_pp" byte fun value m => { m with maxPp := value } ]

/-- A move as a value. -/
def ofMove (m : Move) : Value :=
  .record [("id", ofWord16 m.id), ("pp", ofByte m.pp), ("max_pp", ofByte m.maxPp)]

/-- A monster; what is left out is zero or empty. -/
def monster : Shape Monster where
  title := "struct Monster"
  start := {}
  fields :=
    [ .optional "species" int fun value m => { m with species := value },
      .optional "hp" int fun value m => { m with hp := value },
      .optional "max_hp" int fun value m => { m with maxHp := value },
      .optional "atk" int fun value m => { m with attack := value },
      .optional "def" int fun value m => { m with defense := value },
      .optional "sp_atk" int fun value m => { m with specialAttack := value },
      .optional "sp_def" int fun value m => { m with specialDefense := value },
      .optional "abilities" (pairOf byte) fun (first, second) m =>
        { m with abilities := { first, second } },
      .optional "moves" (listOf move.decode) fun value m => { m with moves := value } ]

/-- A monster as a value. -/
def ofMonster (m : Monster) : Value :=
  .record
    [ ("species", ofWord m.species), ("hp", ofWord m.hp), ("max_hp", ofWord m.maxHp),
      ("atk", ofWord m.attack), ("def", ofWord m.defense), ("sp_atk", ofWord m.specialAttack),
      ("sp_def", ofWord m.specialDefense),
      ("abilities", .list [ofByte m.abilities.first, ofByte m.abilities.second]),
      ("moves", .ofList ofMove m.moves) ]

/-- An entity; it is valid, and no monster, where nothing else is said. -/
def entity : Shape Entity where
  title := "struct Entity"
  start := {}
  fields :=
    [ .optional "valid" boolean fun value e => { e with valid := value },
      .optional "monster" (Json.optional monster.decode) fun value e => { e with monster := value } ]

/-- An entity as a value. -/
def ofEntity (e : Entity) : Value :=
  .record [("valid", .bool e.valid), ("monster", .ofOption ofMonster e.monster)]

/-- An item. -/
def item : Shape Item where
  title := "struct Item"
  start := {}
  fields :=
    [ .optional "id" word16 fun value i => { i with id := value },
      .optional "quantity" word16 fun value i => { i with quantity := value } ]

/-- An item as a value. -/
def ofItem (i : Item) : Value :=
  .record [("id", ofWord16 i.id), ("quantity", ofWord16 i.quantity)]

/-- A recruit. -/
def recruit : Shape Recruit where
  title := "struct Recruit"
  start := { species := 0, name := "", joinedAt := 0, joinedAtFloor := 0, level := 0 }
  fields :=
    [ .mandatory "species" int fun value r => { r with species := value },
      .mandatory "name" text fun value r => { r with name := value },
      .mandatory "joined_at" word16 fun value r => { r with joinedAt := value },
      .mandatory "joined_at_floor" byte fun value r => { r with joinedAtFloor := value },
      .mandatory "level" byte fun value r => { r with level := value } ]

/-- A recruit as a value. -/
def ofRecruit (r : Recruit) : Value :=
  .record
    [ ("species", ofWord r.species), ("name", .text r.name), ("joined_at", ofWord16 r.joinedAt),
      ("joined_at_floor", ofByte r.joinedAtFloor), ("level", ofByte r.level) ]

/-- The look of the dialogue box as a value. -/
def ofDialogueBox (box : DialogueBox) : Value :=
  .record
    [ ("x", ofWord box.x), ("y", ofWord box.y), ("width", ofWord box.width),
      ("height", ofWord box.height), ("screen", ofWord box.screen), ("frame", ofWord box.frame) ]

end DungeonHooks.Format
