import Std.Data.TreeMap
import DungeonHooks.Effect.Event
import DungeonHooks.Replay.SimulatedHost

/-! Scenarios: a world, and the host events that happen in it. -/

namespace DungeonHooks.Replay

/-- The world before the first step. -/
structure WorldSetup where
  entities : Std.TreeMap String Entity := {}
  items : Std.TreeMap String Item := {}
  pressed : UInt32 := 0
  held : UInt32 := 0
  dualGender : List Int32 := []
  random : List Int32 := []
  monsterNames : Std.TreeMap Int32 String := {}
  roster : Std.TreeMap Nat Recruit := {}
  rosterCapacity : Nat := 8

/-- The simulated host of a world. -/
def WorldSetup.host (world : WorldSetup) : SimulatedHost where
  pressed := world.pressed
  held := world.held
  dualGender := world.dualGender
  monsterNames := world.monsterNames
  roster := world.roster
  rosterCapacity := world.rosterCapacity
  random := world.random

/-- A script opcode with its operand words. -/
structure OpcodeStep where
  opcode : Int32 := 0
  args : List UInt16 := []
  deriving DecidableEq, Inhabited

/-- An item used by one named entity on another. -/
structure ItemStep where
  user : String := ""
  target : String := ""
  item : String := ""
  thrown : Bool := false
  deriving DecidableEq, Inhabited

/-- A move used by one named entity on another; `power` is what the host's own damage would be. -/
structure MoveStep where
  user : String := ""
  target : String := ""
  moveId : UInt16 := 0
  itemId : UInt16 := 0
  power : Int32 := 0
  deriving DecidableEq, Inhabited

/-- A script menu, the input that the player has for it, and the frames that it may take. -/
structure MenuVisit where
  menu : Int32 := 0
  input : PlayerInput := {}
  frameLimit : Nat := 240
  deriving DecidableEq, Inhabited

/-- An event of the host. -/
inductive Step where
  | opcode (step : OpcodeStep)
  | useItem (step : ItemStep)
  | useMove (step : MoveStep)
  | specialProcess (call : ProcessCall)
  | menu (step : MenuVisit)
  deriving DecidableEq, Inhabited

/-- The name of a kind of step. -/
def Step.kind : Step → String
  | .opcode _ => "opcode"
  | .useItem _ => "use_item"
  | .useMove _ => "use_move"
  | .specialProcess _ => "special_process"
  | .menu _ => "menu"

/-- A world and its events, in order. -/
structure Scenario where
  name : String := ""
  world : WorldSetup := {}
  steps : List Step := []

end DungeonHooks.Replay
