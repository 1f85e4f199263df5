/-! What the player does, written down in advance. -/

namespace DungeonHooks.Replay

/-- One choice in a scrolling list: the options the cursor visits, a frame each, and the result it is closed with. -/
structure ListChoice where
  hover : List Int32 := []
  result : Int32 := 0
  deriving DecidableEq, Inhabited

/-- The player's input, in the order it is consumed; each kind of window has its own queue. -/
structure PlayerInput where
  advanced : List ListChoice := []
  simple : List Int32 := []
  keyboard : List String := []
  deriving DecidableEq, Inhabited

/-- Input queued after other input. -/
def PlayerInput.append (queued more : PlayerInput) : PlayerInput where
  advanced := queued.advanced ++ more.advanced
  simple := queued.simple ++ more.simple
  keyboard := queued.keyboard ++ more.keyboard

end DungeonHooks.Replay
