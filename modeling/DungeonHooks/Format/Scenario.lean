import DungeonHooks.Format.World
import DungeonHooks.Replay.Scenario

/-! How scenarios are written in documents. -/

namespace DungeonHooks.Format

open Json Replay

/-- A map as a sorted table; of several members with one key the last counts. -/
def mapOf {κ α : Type} [Ord κ] (key : KeyDecoder κ) (value : Decoder α) :
    Decoder (Std.TreeMap κ α) := fun reach node =>
  (membersOf key value reach node).map fun members =>
    members.foldl (fun map (key, value) => map.insert key value) {}

/-- A key that is a 32-bit word. -/
def wordKey : KeyDecoder Int32 := fun key => .ofInt <$> integerKey .i32 key

/-- A key that is a size. -/
def sizeKey : KeyDecoder Nat := fun key => Int.toNat <$> integerKey .usize key

/-- One choice in a scrolling list. -/
def listChoice : Shape ListChoice where
  title := "struct AdvancedChoice"
  start := {}
  fields :=
    [ .optional "hover" (listOf int) fun value c => { c with hover := value },
      .optional "result" int fun value c => { c with result := value } ]

/-- The player's input. -/
def playerInput : Shape PlayerInput where
  title := "struct MenuInput"
  start := {}
  fields :=
    [ .optional "advanced" (listOf listChoice.decode) fun value i => { i with advanced := value },
      .optional "simple" (listOf int) fun value i => { i with simple := value },
      .optional "keyboard" (listOf text) fun value i => { i with keyboard := value } ]

/-- The world of a scenario. -/
def world : Shape WorldSetup where
  title := "struct WorldSetup"
  start := {}
  fields :=
    [ .optional "entities" (mapOf textKey entity.decode) fun value w => { w with entities := value },
      .optional "items" (mapOf textKey item.decode) fun value w => { w with items := value },
      .optional "pressed" word32 fun value w => { w with pressed := value },
      .optional "held" word32 fun value w => { w with held := value },
      .optional "dual_gender" (listOf int) fun value w => { w with dualGender := value },
      .optional "random" (listOf int) fun value w => { w with random := value },
      .optional "monster_names" (mapOf wordKey text) fun value w =>
        { w with monsterNames := value },
      .optional "roster" (mapOf sizeKey recruit.decode) fun value w => { w with roster := value },
      .optional "roster_capacity" size fun value w => { w with rosterCapacity := value } ]

/-- An opcode. -/
def opcodeStep : Shape OpcodeStep where
  title := "struct variant Step::Opcode"
  start := {}
  fields :=
    [ .mandatory "opcode" int fun value s => { s with opcode := value },
      .optional "args" (listOf word16) fun value s => { s with args := value } ]

/-- A use of an item. -/
def itemStep : Shape ItemStep where
  title := "struct variant Step::UseItem"
  start := {}
  fields :=
    [ .mandatory "user" text fun value s => { s with user := value },
      .mandatory "target" text fun value s => { s with target := value },
      .mandatory "item" text fun value s => { s with item := value },
      .optional "thrown" boolean fun value s => { s with thrown := value } ]

/-- A use of a move. -/
def moveStep : Shape MoveStep where
  title := "struct variant Step::UseMove"
  start := {}
  fields :=
    [ .mandatory "user" text fun value s => { s with user := value },
      .mandatory "target" text fun value s => { s with target := value },
      .mandatory "move_id" word16 fun value s => { s with moveId := value },
      .optional "item_id" word16 fun value s => { s with itemId := value },
      .optional "power" int fun value s => { s with power := value } ]

/-- A special process. -/
def processStep : Shape ProcessCall where
  title := "struct variant Step::SpecialProcess"
  start := { id := 0 }
  fields :=
    [ .mandatory "id" word32 fun value c => { c with id := value },
      .optional "arg1" short fun value c => { c with first := value },
      .optional "arg2" short fun value c => { c with second := value } ]

/-- A menu with its input. -/
def menuVisit : Shape MenuVisit where
  title := "struct variant Step::Menu"
  start := {}
  fields :=
    [ .mandatory "id" int fun value v => { v with menu := value },
      .optional "input" playerInput.decode fun value v => { v with input := value },
      .optional "frame_limit" size fun value v => { v with frameLimit := value } ]

/-- A step, told apart by its kind. -/
def step : Tagged Step where
  title := "internally tagged enum Step"
  tagName := "kind"
  variants :=
    [ .ofShape "opcode" opcodeStep .opcode,
      .ofShape "use_item" itemStep .useItem,
      .ofShape "use_move" moveStep .useMove,
      .ofShape "special_process" processStep .specialProcess,
      .ofShape "menu" menuVisit .menu ]

/-- A scenario. -/
def scenario : Shape Scenario where
  title := "struct Scenario"
  start := {}
  fields :=
    [ .mandatory "name" text fun value s => { s with name := value },
      .optional "world" world.decode fun value s => { s with world := value },
      .mandatory "steps" (listOf step.decode) fun value s => { s with steps := value } ]

end DungeonHooks.Format
