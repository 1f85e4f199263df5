/-! Where the host's ids end and the runtime's begin. -/

namespace DungeonHooks

/-- The base ids that route events, the shared keyboard, and the journal switch. -/
structure Settings where
  /-- Opcodes from this value on are custom instructions. -/
  firstCustomOpcode : Int32 := 0x1000
  /-- Script menu ids from this value on are custom menus. -/
  firstCustomMenu : Int32 := 80
  /-- Special processes from this id on never reach the host. -/
  specialProcessThreshold : UInt32 := 100
  /-- The host keyboard that all custom menus share. -/
  keyboardFallbackMode : Int32 := 3
  /-- Whether journal entries are kept in memory. -/
  journal : Bool := true
  deriving DecidableEq, Inhabited

end DungeonHooks
