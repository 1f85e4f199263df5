import DungeonHooks.Host.Basic

/-! A host that serves like another one and keeps every command it was given, in order. -/

namespace DungeonHooks

/-- A command given to a host, with the value drawn if it was a draw. -/
inductive HostCall where
  | setDialogueBox (box : DialogueBox)
  | saveVariable (var : ScriptVariable) (value : Int32)
  | saveVariableBytes (var : ScriptVariable) (bytes : List UInt8)
  | changeBorderColor (color : Int32)
  | randRange (low high drawn : Int32)
  | logMessage (user : Entity) (message : String)
  | boostOffensiveStat (user : Entity) (split : StatSplit) (stages : Int32)
  | boostDefensiveStat (user : Entity) (split : StatSplit) (stages : Int32)
  /-- The list is kept with the label that each option number had then. -/
  | createAdvancedMenu (menu : AdvancedMenu) (label : Nat → String)
  | resumeAdvancedMenu (window : WindowId)
  | closeAdvancedMenu (window : WindowId)
  | createSimpleMenu (menu : SimpleMenu)
  | closeSimpleMenu (window : WindowId)
  | createPortraitBox (screen palette : UInt8) (framed : Bool)
  | showPortrait (window : WindowId) (portrait : Portrait)
  | closePortraitBox (window : WindowId)
  | recruit (slot : Nat) (recruit : Recruit)
  | setJoined (monster : Int32)
  | setupKeyboard (menu : Int32)
  | renamePartner (name : String)

/-- A command, or a note made by a handler between commands. -/
inductive HostEvent (ν : Type) where
  | call (call : HostCall)
  | note (note : ν)

/-- A host's state together with the events so far, oldest first. -/
structure Recorder (σ ν : Type) where
  host : σ
  events : List (HostEvent ν) := []

namespace Recorder

variable {σ ν α : Type}

/-- Adds a note after the events so far. -/
def note (recorder : Recorder σ ν) (note : ν) : Recorder σ ν :=
  { recorder with events := recorder.events ++ [.note note] }

/-- Passes a command on and records it. -/
def serve (recorder : Recorder σ ν) (call : α → HostCall) (command : σ → Reply σ α) :
    Reply (Recorder σ ν) α :=
  let reply := command recorder.host
  { value := reply.value
    host := { host := reply.host, events := recorder.events ++ [.call (call reply.value)] }
    said := reply.said }

end Recorder

/-- Questions go to the host underneath; commands do too, and are recorded. -/
instance {σ ν : Type} [Host σ] : Host (Recorder σ ν) where
  scriptParam r raw := Host.scriptParam r.host raw
  setDialogueBox box r := r.serve (fun _ => .setDialogueBox box) (Host.setDialogueBox box)
  pressedButtons r := Host.pressedButtons r.host
  heldButtons r := Host.heldButtons r.host
  saveVariable var value r :=
    r.serve (fun _ => .saveVariable var value) (Host.saveVariable var value)
  saveVariableBytes var bytes r :=
    r.serve (fun _ => .saveVariableBytes var bytes) (Host.saveVariableBytes var bytes)
  changeBorderColor color r :=
    r.serve (fun _ => .changeBorderColor color) (Host.changeBorderColor color)
  randRange low high r := r.serve (.randRange low high) (Host.randRange low high)
  logMessage user message r :=
    r.serve (fun _ => .logMessage user message) (Host.logMessage user message)
  boostOffensiveStat user split stages r :=
    r.serve (fun _ => .boostOffensiveStat user split stages)
      (Host.boostOffensiveStat user split stages)
  boostDefensiveStat user split stages r :=
    r.serve (fun _ => .boostDefensiveStat user split stages)
      (Host.boostDefensiveStat user split stages)
  createAdvancedMenu menu r :=
    let label := menu.entry (Host.monsterName r.host)
    r.serve (fun _ => .createAdvancedMenu menu label) (Host.createAdvancedMenu menu)
  advancedMenuActive r window := Host.advancedMenuActive r.host window
  advancedMenuResult r window := Host.advancedMenuResult r.host window
  advancedMenuOption r window := Host.advancedMenuOption r.host window
  resumeAdvancedMenu window r :=
    r.serve (fun _ => .resumeAdvancedMenu window) (Host.resumeAdvancedMenu window)
  closeAdvancedMenu window r :=
    r.serve (fun _ => .closeAdvancedMenu window) (Host.closeAdvancedMenu window)
  createSimpleMenu menu r :=
    r.serve (fun _ => .createSimpleMenu menu) (Host.createSimpleMenu menu)
  simpleMenuActive r window := Host.simpleMenuActive r.host window
  simpleMenuResult r window := Host.simpleMenuResult r.host window
  closeSimpleMenu window r :=
    r.serve (fun _ => .closeSimpleMenu window) (Host.closeSimpleMenu window)
  createPortraitBox screen palette framed r :=
    r.serve (fun _ => .createPortraitBox screen palette framed)
      (Host.createPortraitBox screen palette framed)
  showPortrait window portrait r :=
    r.serve (fun _ => .showPortrait window portrait) (Host.showPortrait window portrait)
  closePortraitBox window r :=
    r.serve (fun _ => .closePortraitBox window) (Host.closePortraitBox window)
  monsterName r monster := Host.monsterName r.host monster
  monsterGender r monster := Host.monsterGender r.host monster
  firstEmptySlot r limit := Host.firstEmptySlot r.host limit
  recruit slot member r := r.serve (fun _ => .recruit slot member) (Host.recruit slot member)
  setJoined monster r := r.serve (fun _ => .setJoined monster) (Host.setJoined monster)
  setupKeyboard menu r := r.serve (fun _ => .setupKeyboard menu) (Host.setupKeyboard menu)
  keyboardText r := Host.keyboardText r.host
  keyboardDismissed r := Host.keyboardDismissed r.host
  renamePartner name r := r.serve (fun _ => .renamePartner name) (Host.renamePartner name)

end DungeonHooks
