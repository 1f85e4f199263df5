import DungeonHooks.Dispatch.Route
import DungeonHooks.Dispatch.Table
import DungeonHooks.Effect.Event
import DungeonHooks.Format.World
import DungeonHooks.Menu.State

/-! How the answers of hooks, and the state of the running menu, are written. -/

namespace DungeonHooks.Format

open Json

/-- A line of the log. -/
def ofLogRecord (line : LogRecord) : Value :=
  .record
    [ ("target", .text line.target), ("level", .text line.level.name),
      ("message", .text line.message) ]

/-- A window's handle; an empty slot is null. -/
def ofWindow (window : Option WindowId) : Value :=
  .ofOption (fun window => ofWord window.id) window

/-- What a portrait box shows. -/
def ofPortrait (portrait : Portrait) : Value :=
  .record
    [ ("monster_id", ofWord portrait.monsterId), ("layout", ofByte portrait.layout),
      ("offset", .list [ofWord portrait.offset.1, ofWord portrait.offset.2]) ]

/-- The flags of a menu, as a list. -/
def ofFlags (flags : MenuFlags) : Value :=
  .ofList .bool
    [flags.aAccept, flags.bCancel, flags.seOn, flags.partialMenu, flags.menuLowerBar,
      flags.noAcceptButton]

/-- The state of the running menu. -/
def ofMenuState (state : MenuState) : Value :=
  .record
    [ ("active_menu", .ofOption ofWord state.activeMenu), ("progress", ofWord state.progress),
      ("return_value", ofWord state.returnValue),
      ("previous_option", ofWord state.previousOption),
      ("portrait", ofPortrait state.portrait), ("results", .ofList ofWord state.results.toList),
      ("windows", .ofList ofWindow state.windows.windows.toList) ]

/-- Who runs an opcode. -/
def ofOpcodeRoute : OpcodeRoute → Value
  | .native => .record [("route", .text "native")]
  | .custom index => .record [("route", .text "custom"), ("index", ofWord index)]

/-- An answer, or the index that was out of range. -/
def ofLookup {α : Type} (encode : α → Value) : Except OutOfRange α → Value
  | .ok value => .record [("ok", encode value)]
  | .error error =>
    .record
      [ ("error", .text "OutOfRange"), ("message", .text error.message),
        ("table", .text error.table.name), ("index", ofWord error.index),
        ("len", ofSize error.len) ]

/-- What the host shares with a move effect. -/
def ofMoveInput (input : MoveInput) : Value :=
  .record
    [ ("move_id", ofWord16 input.moveId), ("item_id", ofWord16 input.itemId),
      ("dealt_damage", .bool input.dealtDamage) ]

end DungeonHooks.Format
