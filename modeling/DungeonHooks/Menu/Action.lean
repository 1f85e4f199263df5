import DungeonHooks.Menu.Machine

/-! Menus made of single changes of the menu state, one list for each callback. -/

namespace DungeonHooks

/-- A single change of the menu state, or a line for the journal. -/
inductive MenuAction where
  | setWindow (slot : Nat) (window : Option WindowId)
  | takeWindow (slot : Nat)
  | setResult (slot : Nat) (value : Int32)
  | setProgress (value : Int32)
  | advance (amount : Int32)
  | setReturn (value : Int32)
  | setOption (value : Int32)
  | setPortrait (monster : Int32)
  | warn (message : String)
  deriving DecidableEq, Inhabited

/-- Applies an action; a window that is taken out of its slot is shown to `taken`. -/
def MenuAction.apply {σ : Type} (taken : Option WindowId → σ → σ) (frame : MenuFrame σ) :
    MenuAction → Except Halt (MenuFrame σ)
  | .setWindow slot window =>
    (frame.state.windows.set slot window).map fun windows =>
      { frame with state := { frame.state with windows } }
  | .takeWindow slot =>
    let (window, windows) := frame.state.windows.take slot
    .ok
      { state := { frame.state with windows }
        context := { frame.context with host := taken window frame.context.host } }
  | .setResult slot value =>
    .ok
      { frame with
        state := if h : slot < menuSlots then frame.state.setResult ⟨slot, h⟩ value
          else frame.state }
  | .setProgress value => .ok { frame with state := { frame.state with progress := value } }
  | .advance amount =>
    .ok { frame with state := { frame.state with progress := frame.state.progress + amount } }
  | .setReturn value => .ok { frame with state := { frame.state with returnValue := value } }
  | .setOption value => .ok { frame with state := { frame.state with previousOption := value } }
  | .setPortrait monster =>
    let portrait := { frame.state.portrait with monsterId := monster }
    .ok { frame with state := { frame.state with portrait } }
  | .warn message => .ok { frame with context := frame.context.warn .general message }

/-- Applies actions in order; a halt keeps what the actions before it did. -/
def MenuAction.applyAll {σ : Type} (taken : Option WindowId → σ → σ) (frame : MenuFrame σ) :
    List MenuAction → Except Halt Unit × MenuFrame σ
  | [] => (.ok (), frame)
  | action :: rest =>
    match action.apply taken frame with
    | .error halt => (.error halt, frame)
    | .ok frame => applyAll taken frame rest

end DungeonHooks
