import Std.Data.TreeMap
import DungeonHooks.Menu.Recruit
import DungeonHooks.Replay.Player
import DungeonHooks.Text.Quoted

/-! A host that lives in memory, and whose player follows a script. -/

namespace DungeonHooks.Replay

/-- The kinds of windows. -/
inductive WindowKind where
  | advanced
  | simple
  | portrait
  deriving DecidableEq, Inhabited

/-- The display text of a kind. -/
def WindowKind.describe : WindowKind → String
  | .advanced => "Advanced"
  | .simple => "Simple"
  | .portrait => "Portrait"

/-- An open window; an active one waits for input. -/
structure Window where
  kind : WindowKind
  active : Bool
  result : Int32 := 0
  currentOption : Int32 := 0
  deriving DecidableEq, Inhabited

/-- A window as it opens. -/
def Window.opened (kind : WindowKind) : Window :=
  { kind, active := kind != .portrait }

/-- A keyboard that a menu has set up. -/
structure KeyboardSession where
  menu : Int32
  text : String := ""
  done : Bool := false
  deriving DecidableEq, Inhabited

/-- A value for each variable that has been written. -/
structure Variables (α : Type) where
  eventLocal : Option α := none
  partnerFirstName : Option α := none
  deriving DecidableEq, Inhabited

/-- Writes a variable. -/
def Variables.set {α : Type} (vars : Variables α) (var : ScriptVariable) (value : α) :
    Variables α :=
  match var with
  | .eventLocal => { vars with eventLocal := some value }
  | .partnerFirstName => { vars with partnerFirstName := some value }

/-- The variables that have been written, in order. -/
def Variables.toList {α : Type} (vars : Variables α) : List (ScriptVariable × α) :=
  (vars.eventLocal.map (.eventLocal, ·)).toList
    ++ (vars.partnerFirstName.map (.partnerFirstName, ·)).toList

/-- The state of the host. -/
structure SimulatedHost where
  borderColor : Option Int32 := none
  dialogueBox : Option DialogueBox := none
  pressed : UInt32 := 0
  held : UInt32 := 0
  wordVariables : Variables Int32 := {}
  byteVariables : Variables (List UInt8) := {}
  messages : List String := []
  statBoosts : List String := []
  monsterNames : Std.TreeMap Int32 String := {}
  /-- Species with a second form, which is the female one. -/
  dualGender : List Int32 := []
  roster : Std.TreeMap Nat Recruit := {}
  rosterCapacity : Nat := 0
  joined : List Int32 := []
  partnerName : Option String := none
  portraitsShown : List Int32 := []
  /-- The values that draws will consume. -/
  random : List Int32 := []
  input : PlayerInput := {}
  /-- The open windows, by ascending handle. -/
  windows : List (WindowId × Window) := []
  /-- The windows opened so far; the next handle is the low word of their number. -/
  nextWindow : Nat := 0
  keyboard : Option KeyboardSession := none

/-- The log target of the host's own messages. -/
def hostTarget : String := "host"

namespace SimulatedHost

/-- Queues values for draws. -/
def queueRandom (host : SimulatedHost) (values : List Int32) : SimulatedHost :=
  { host with random := host.random ++ values }

/-- Queues input of the player. -/
def queueInput (host : SimulatedHost) (input : PlayerInput) : SimulatedHost :=
  { host with input := host.input.append input }

/-- The number of open windows. -/
def openWindows (host : SimulatedHost) : Nat :=
  host.windows.length

/-- Lets a window take at most one event of the queued input; only an active one does. -/
def deliver (input : PlayerInput) (window : Window) : PlayerInput × Window :=
  if !window.active then (input, window) else
    match window.kind with
    | .advanced =>
      match input.advanced with
      | [] => (input, window)
      | choice :: later =>
        match choice.hover with
        -- The cursor visits its options first; the choice is closed when none is left.
        | option :: hover =>
          ({ input with advanced := { choice with hover } :: later },
            { window with currentOption := option })
        | [] =>
          ({ input with advanced := later },
            { window with result := choice.result, active := false })
    | .simple =>
      match input.simple with
      | [] => (input, window)
      | result :: later =>
        ({ input with simple := later }, { window with result, active := false })
    | .portrait => (input, window)

/-- Lets windows take input one after the other. -/
def deliverAll : PlayerInput → List (WindowId × Window) → PlayerInput × List (WindowId × Window)
  | input, [] => (input, [])
  | input, (id, window) :: rest =>
    let (input, window) := deliver input window
    let (input, rest) := deliverAll input rest
    (input, (id, window) :: rest)

/-- Lets a keyboard that waits take a text. -/
def deliverText (input : PlayerInput) (session : KeyboardSession) :
    PlayerInput × KeyboardSession :=
  if session.done then (input, session) else
    match input.keyboard with
    | [] => (input, session)
    | text :: later => ({ input with keyboard := later }, { session with text, done := true })

/-- Applies one frame of input to all that waits for it: the windows first, then the keyboard. -/
def advanceFrame (host : SimulatedHost) : SimulatedHost :=
  -- What one window takes is gone for the windows behind it.
  let (input, windows) := deliverAll host.input host.windows
  match host.keyboard with
  | none => { host with input, windows }
  | some session =>
    let (input, session) := deliverText input session
    { host with input, windows, keyboard := some session }

/-- A line of the host's own log. -/
def said (level : LogLevel) (message : String) : LogRecord :=
  { target := hostTarget, level, message }

/-- Opens a window under the next handle. -/
def openWindow (kind : WindowKind) (host : SimulatedHost) : WindowId × SimulatedHost :=
  let id : WindowId := ⟨Int32.ofNat host.nextWindow⟩
  -- Handles ascend, so the new window stands behind the others.
  (id, { host with
    nextWindow := host.nextWindow + 1
    windows := host.windows ++ [(id, .opened kind)] })

/-- The open window with a handle, whatever its kind. -/
def anyWindow? (host : SimulatedHost) (id : WindowId) : Option Window :=
  host.windows.lookup id

/-- The open window with a handle and a kind. -/
def window? (host : SimulatedHost) (kind : WindowKind) (id : WindowId) : Option Window :=
  (host.anyWindow? id).filter (·.kind == kind)

/-- Closes a window; closing one that is not open, or of another kind, is only worth a warning. -/
def closeWindow (kind : WindowKind) (id : WindowId) (host : SimulatedHost) :
    Reply SimulatedHost Unit :=
  if (host.window? kind id).isSome then
    .still { host with windows := host.windows.filter (·.1 != id) } ()
  else
    { value := (), host
      said := [said .warn s!"closing unknown {kind.describe} window {id.id.toInt}"] }

/-- Makes a window wait for input again. -/
def resumeWindow (id : WindowId) (host : SimulatedHost) : SimulatedHost :=
  -- A handle that is not open resumes nothing.
  { host with
    windows := host.windows.map fun (key, window) =>
      (key, if key == id then { window with active := true } else window) }

/-- The name of a monster: the given one, or one made of its number. -/
def nameOf (host : SimulatedHost) (monster : Int32) : String :=
  host.monsterNames[monster]?.getD s!"Monster{monster.toInt}"

/-- The gender of a form: only species with two forms have one, the second form being female. -/
def genderOf (host : SimulatedHost) (monster : Int32) : Gender :=
  let secondForm := RecruitMenu.secondFormOffset
  if secondForm < monster && host.dualGender.contains (monster - secondForm) then .female
  else if host.dualGender.contains monster then .male
  else .invalid

/-- The first of `count` slots, from a slot on, that is free. -/
def firstFree (roster : Std.TreeMap Nat Recruit) (slot : Nat) : Nat → Option Nat
  | 0 => none
  | count + 1 => if roster.contains slot then firstFree roster (slot + 1) count else some slot

/-- Draws the next queued value, wrapped into the range; the lower bound if there is none or the range is empty. -/
def draw (low high : Int32) (host : SimulatedHost) : Int32 × SimulatedHost :=
  let span := saturatingSub high low
  match host.random with
  | [] => (low, host)
  | value :: random =>
    -- The remainder is never negative, so the draw stays above the lower bound.
    let drawn := if 0 < span then Int32.ofInt (low.toInt + value.toInt % span.toInt) else low
    (drawn, { host with random })

/-- Keeps a note of a raised stat. -/
def noteBoost (kind : String) (split : StatSplit) (stages : Int32) (host : SimulatedHost) :
    SimulatedHost :=
  { host with statBoosts := host.statBoosts ++ [s!"{kind} {split.name} +{stages.toInt}"] }

/-- Opens a window and answers with its handle. -/
def opening (kind : WindowKind) (said : List LogRecord) (host : SimulatedHost) :
    Reply SimulatedHost (Option WindowId) :=
  let (id, host) := host.openWindow kind
  { value := some id, host, said }

end SimulatedHost

open SimulatedHost in
/-- The services of the simulated host. -/
instance : Host SimulatedHost where
  setDialogueBox box host := .still { host with dialogueBox := some box } ()
  pressedButtons host := host.pressed
  heldButtons host := host.held
  saveVariable var value host :=
    .still { host with wordVariables := host.wordVariables.set var value } ()
  saveVariableBytes var bytes host :=
    .still { host with byteVariables := host.byteVariables.set var bytes } ()
  changeBorderColor color host := .still { host with borderColor := some color } ()
  randRange low high host :=
    let (drawn, host) := host.draw low high
    .still host drawn
  logMessage _ message host := .still { host with messages := host.messages ++ [message] } ()
  boostOffensiveStat user split stages host :=
    .still (host.noteBoost "offensive" split stages) user
  boostDefensiveStat user split stages host :=
    .still (host.noteBoost "defensive" split stages) user
  createAdvancedMenu menu host :=
    let first := Text.quoted (menu.entry host.nameOf 0)
    let message := s!"advanced menu with {menu.optionCount} options, first entry {first}"
    host.opening .advanced [said .debug message]
  advancedMenuActive host id := (host.window? .advanced id).any (·.active)
  advancedMenuResult host id := ((host.window? .advanced id).map (·.result)).getD (-1)
  advancedMenuOption host id := ((host.window? .advanced id).map (·.currentOption)).getD 0
  resumeAdvancedMenu id host := .still (host.resumeWindow id) ()
  closeAdvancedMenu := closeWindow .advanced
  createSimpleMenu menu host :=
    host.opening .simple [said .debug s!"simple menu with {menu.options.length} options"]
  simpleMenuActive host id := (host.window? .simple id).any (·.active)
  simpleMenuResult host id := ((host.window? .simple id).map (·.result)).getD 0
  closeSimpleMenu := closeWindow .simple
  createPortraitBox _ _ _ host := host.opening .portrait []
  showPortrait _ portrait host :=
    .still { host with portraitsShown := host.portraitsShown ++ [portrait.monsterId] } ()
  closePortraitBox := closeWindow .portrait
  monsterName host monster := host.nameOf monster
  monsterGender host monster := host.genderOf monster
  firstEmptySlot host limit := firstFree host.roster 0 (min limit host.rosterCapacity)
  recruit slot member host := .still { host with roster := host.roster.insert slot member } ()
  setJoined monster host := .still { host with joined := host.joined ++ [monster] } ()
  setupKeyboard menu host := .still { host with keyboard := some { menu } } ()
  keyboardText host := (host.keyboard.map (·.text)).getD ""
  keyboardDismissed host := host.keyboard.any (·.done)
  renamePartner name host :=
    { value := ()
      host := { host with partnerName := some name }
      said := host.keyboard.toList.map fun session =>
        said .debug s!"partner renamed from keyboard of menu {session.menu.toInt}" }

end DungeonHooks.Replay
