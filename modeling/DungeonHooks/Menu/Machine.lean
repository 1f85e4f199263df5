import DungeonHooks.Dispatch.Table
import DungeonHooks.Host.Talk
import DungeonHooks.Menu.State

/-! The menu machine: a script starts a menu once, then polls it every frame until it finishes. -/

namespace DungeonHooks

/-- What the callbacks of a menu work on. -/
structure MenuFrame (σ : Type) where
  state : MenuState
  context : Context σ

/-- A callback of a menu, given the menu's external id. What was done before a halt stays done. -/
abbrev MenuCallback (σ α : Type) := Int32 → MenuFrame σ → Except Halt α × MenuFrame σ

/-- A custom menu: `create` runs once, `update` every frame until it answers true, then `close`. -/
structure Menu (σ : Type) where
  create : MenuCallback σ Unit
  update : MenuCallback σ Bool
  close : MenuCallback σ Unit

/-- A menu made of talks; each goes from the state of the menu to the state it leaves. -/
structure TalkingMenu where
  create : Int32 → MenuState → Talk MenuState
  update : Int32 → MenuState → Talk (Bool × MenuState)
  close : Int32 → MenuState → Talk MenuState

/-- The menu that holds its talks with the host. It never halts. -/
def TalkingMenu.menu {σ : Type} [Host σ] (talking : TalkingMenu) : Menu σ where
  create id frame :=
    let held := (talking.create id frame.state).hold frame.context
    (.ok (), { state := held.value, context := held.context })
  update id frame :=
    let held := (talking.update id frame.state).hold frame.context
    (.ok held.value.1, { state := held.value.2, context := held.context })
  close id frame :=
    let held := (talking.close id frame.state).hold frame.context
    (.ok (), { state := held.value, context := held.context })

/-- A menu with its name and the strings of its keyboard. -/
structure MenuDescriptor (σ : Type) where
  name : String
  keyboardPrompt : Option UInt16 := none
  keyboardConfirm : Option UInt16 := none
  menu : Menu σ

/-- The display text of an optional string id. -/
def describeStringId : Option UInt16 → String
  | none => "None"
  | some id => s!"Some({id})"

/-- The display text of a menu, its name quoted by the given function. -/
def MenuDescriptor.describe {σ : Type} (quote : String → String) (menu : MenuDescriptor σ) :
    String :=
  s!"MenuDescriptor \x7b name: {quote menu.name}, "
    ++ s!"keyboard_prompt: {describeStringId menu.keyboardPrompt}, "
    ++ s!"keyboard_confirm: {describeStringId menu.keyboardConfirm}, .. \x7d"

/-- The answer to a poll. -/
structure MenuStep where
  finished : Bool
  returnValue : Int32
  deriving DecidableEq, Inhabited

/-- The menu goes on. -/
def MenuStep.pending : MenuStep :=
  { finished := false, returnValue := 0 }

/-- The menu is over, with a value for the script. -/
def MenuStep.done (returnValue : Int32) : MenuStep :=
  { finished := true, returnValue }

/-- The menus of a runtime, and the state of the one that runs. -/
structure MenuMachine (σ : Type) where
  table : HandlerTable (MenuDescriptor σ)
  state : MenuState := {}

/-- What a call of the machine answers, and how it leaves machine and context. -/
structure MenuReply (σ α : Type) where
  answer : Except Halt α
  machine : MenuMachine σ
  context : Context σ

namespace MenuMachine

variable {σ : Type}

/-- A machine at rest over some menus, the first at an id. -/
def new (firstMenu : Int32) (menus : List (MenuDescriptor σ)) : MenuMachine σ :=
  { table := { kind := .menus, firstId := firstMenu, records := menus } }

/-- The menu with an external id. -/
def descriptor? (machine : MenuMachine σ) (menu : Int32) : Option (MenuDescriptor σ) :=
  machine.table.record? (machine.table.indexOf menu)

/-- The menu that is running. -/
def active? (machine : MenuMachine σ) : Option (MenuDescriptor σ) :=
  machine.state.activeMenu.bind machine.descriptor?

/-- What a callback works on. -/
def frame (machine : MenuMachine σ) (cx : Context σ) : MenuFrame σ :=
  { state := machine.state, context := cx }

/-- The answer of a call that ended with a callback's frame. A halt is reported to the log. -/
def settle {α : Type} (machine : MenuMachine σ) (answer : Except Halt α) (frame : MenuFrame σ) :
    MenuReply σ α :=
  { answer
    machine := { machine with state := frame.state }
    -- The state is kept either way, so a halted menu stays the running one.
    context := match answer with
      | .ok _ => frame.context
      | .error halt => frame.context.halted halt }

/-- Tells the journal that a menu starts, and that another one is still open if there is one. -/
def announce (machine : MenuMachine σ) (menu : Int32) (name : String) (cx : Context σ) :
    Context σ :=
  -- The warning comes first; the session that is still open is not closed.
  let cx := match machine.state.activeMenu with
    | some active => cx.warn .menus <|
        s!"Script menu {menu.toInt} started while menu {active.toInt} was still open"
    | none => cx
  cx.info .menus s!"Running custom script menu {menu.toInt} ({name})"

/-- Starts a menu from a fresh state and runs its `create`. An unknown id changes no state. -/
def start (machine : MenuMachine σ) (menu : Int32) (cx : Context σ) :
    MenuReply σ (Except OutOfRange Unit) :=
  match machine.table.lookup menu with
  | .error error =>
    { answer := .ok (.error error), machine
      context := cx.error .menus
        s!"Custom request for script menu {menu.toInt} out of bounds" }
  | .ok descriptor =>
    let cx := machine.announce menu descriptor.name cx
    -- The slots are emptied with the rest of the state, whatever windows they hold.
    let machine := { machine with state := { activeMenu := some menu } }
    let (answer, frame) := descriptor.menu.create menu (machine.frame cx)
    machine.settle (answer.map .ok) frame

/-- Ends the session of a menu whose `close` has run. -/
def finish (machine : MenuMachine σ) (menu : Int32) (frame : MenuFrame σ) : MenuReply σ MenuStep :=
  let value := frame.state.returnValue
  machine.settle (.ok (.done value))
    { state := { frame.state with activeMenu := none }
      -- The journal is told last, when nothing can halt any more.
      context := frame.context.info .menus
        s!"Custom script menu {menu.toInt} finished with {value.toInt}" }

/-- Advances a menu by a frame. One that is unknown or not running answers -1 and runs nothing. -/
def step (machine : MenuMachine σ) (menu : Int32) (cx : Context σ) : MenuReply σ MenuStep :=
  match machine.descriptor? menu with
  | none =>
    { answer := .ok (.done (-1)), machine
      context := cx.error .menus
        s!"Custom update for script menu {menu.toInt} out of bounds" }
  | some descriptor =>
    -- Only the menu that was started last can be polled.
    if machine.state.activeMenu ≠ some menu then
      { answer := .ok (.done (-1)), machine
        context := cx.error .menus s!"Script menu {menu.toInt} polled without being started" }
    else
      match descriptor.menu.update menu (machine.frame cx) with
      | (.error halt, frame) => machine.settle (.error halt) frame
      | (.ok false, frame) => machine.settle (.ok .pending) frame
      | (.ok true, frame) =>
        match descriptor.menu.close menu frame with
        | (.error halt, frame) => machine.settle (.error halt) frame
        | (.ok (), frame) => machine.finish menu frame

end MenuMachine

end DungeonHooks
