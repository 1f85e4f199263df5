import DungeonHooks.World
import DungeonHooks.Context

/-! The services a host offers. A host provides only those it has; the others are inert. -/

namespace DungeonHooks

/-- The handle of an open window. -/
structure WindowId where
  id : Int32
  deriving DecidableEq, Inhabited

/-- Position and look of the dialogue box; `screen` 1 is the upper one. -/
structure DialogueBox where
  x : Int32
  y : Int32
  width : Int32
  height : Int32
  screen : Int32
  frame : Int32
  deriving DecidableEq, Inhabited

/-- The variables of the script engine that handlers write. -/
inductive ScriptVariable where
  | eventLocal
  | partnerFirstName
  deriving DecidableEq, Inhabited

/-- The name of a variable. -/
def ScriptVariable.name : ScriptVariable → String
  | .eventLocal => "event_local"
  | .partnerFirstName => "partner_first_name"

/-- Which of two stats of a kind is meant. -/
inductive StatSplit where
  | physical
  | special
  deriving DecidableEq, Inhabited

/-- The name of a split. -/
def StatSplit.name : StatSplit → String
  | .physical => "physical"
  | .special => "special"

/-- The gender of a form; forms that do not exist have none. -/
inductive Gender where
  | invalid
  | male
  | female
  | genderless
  deriving DecidableEq, Inhabited

/-- The name of a gender. -/
def Gender.name : Gender → String
  | .invalid => "invalid"
  | .male => "male"
  | .female => "female"
  | .genderless => "genderless"

/-- What a portrait box shows, and where. -/
structure Portrait where
  monsterId : Int32 := 0
  layout : UInt8 := 0
  offset : Int32 × Int32 := (0, 0)
  deriving DecidableEq, Inhabited

/-- How a menu looks and which buttons it obeys. -/
structure MenuFlags where
  aAccept : Bool := false
  bCancel : Bool := false
  seOn : Bool := false
  partialMenu : Bool := false
  menuLowerBar : Bool := false
  noAcceptButton : Bool := false
  deriving DecidableEq, Inhabited

/-- A scrolling list; `entry` labels an option, given the host's names of monsters. -/
structure AdvancedMenu where
  xOffset : Int32
  yOffset : Int32
  flags : MenuFlags
  optionCount : Nat
  optionsPerPage : Nat
  entry : (Int32 → String) → Nat → String

/-- The display text of the flags. -/
def MenuFlags.describe (flags : MenuFlags) : String :=
  s!"MenuFlags \x7b a_accept: {flags.aAccept}, b_cancel: {flags.bCancel}, se_on: {flags.seOn}, "
    ++ s!"partial_menu: {flags.partialMenu}, menu_lower_bar: {flags.menuLowerBar}, "
    ++ s!"no_accept_button: {flags.noAcceptButton} \x7d"

/-- The display text of a scrolling list, which leaves out its labels. -/
def AdvancedMenu.describe (menu : AdvancedMenu) : String :=
  s!"AdvancedMenuSpec \x7b x_offset: {menu.xOffset.toInt}, y_offset: {menu.yOffset.toInt}, "
    ++ s!"flags: {menu.flags.describe}, option_count: {menu.optionCount}, "
    ++ s!"options_per_page: {menu.optionsPerPage}, .. \x7d"

/-- One line of a short menu and the result of choosing it. -/
structure SimpleMenuOption where
  stringId : UInt16
  resultValue : Int32
  deriving DecidableEq, Inhabited

/-- A short menu with all of its options in view. -/
structure SimpleMenu where
  xOffset : Int32
  yOffset : Int32
  width : Int32
  flags : MenuFlags
  options : List SimpleMenuOption
  deriving DecidableEq, Inhabited

/-- The services of a host with state `σ`. Questions read the state, commands answer with a `Reply`. -/
class Host (σ : Type) where
  /-- The script value of a raw operand word. -/
  scriptParam : σ → UInt16 → Int32 := fun _ raw => Int32.ofNat raw.toNat
  setDialogueBox : DialogueBox → σ → Reply σ Unit := fun _ s => .still s ()
  pressedButtons : σ → UInt32 := fun _ => 0
  heldButtons : σ → UInt32 := fun _ => 0
  saveVariable : ScriptVariable → Int32 → σ → Reply σ Unit := fun _ _ s => .still s ()
  saveVariableBytes : ScriptVariable → List UInt8 → σ → Reply σ Unit := fun _ _ s => .still s ()
  changeBorderColor : Int32 → σ → Reply σ Unit := fun _ s => .still s ()
  /-- A random value from the first bound up to, but without, the second. -/
  randRange : Int32 → Int32 → σ → Reply σ Int32 := fun low _ s => .still s low
  logMessage : Entity → String → σ → Reply σ Unit := fun _ _ s => .still s ()
  boostOffensiveStat : Entity → StatSplit → Int32 → σ → Reply σ Entity := fun e _ _ s => .still s e
  boostDefensiveStat : Entity → StatSplit → Int32 → σ → Reply σ Entity := fun e _ _ s => .still s e
  createAdvancedMenu : AdvancedMenu → σ → Reply σ (Option WindowId) := fun _ s => .still s none
  advancedMenuActive : σ → WindowId → Bool := fun _ _ => false
  /-- The option chosen, or -1 after a cancel. -/
  advancedMenuResult : σ → WindowId → Int32 := fun _ _ => -1
  advancedMenuOption : σ → WindowId → Int32 := fun _ _ => 0
  resumeAdvancedMenu : WindowId → σ → Reply σ Unit := fun _ s => .still s ()
  closeAdvancedMenu : WindowId → σ → Reply σ Unit := fun _ s => .still s ()
  createSimpleMenu : SimpleMenu → σ → Reply σ (Option WindowId) := fun _ s => .still s none
  simpleMenuActive : σ → WindowId → Bool := fun _ _ => false
  /-- The result value of the option chosen, or at most 0 after a cancel. -/
  simpleMenuResult : σ → WindowId → Int32 := fun _ _ => 0
  closeSimpleMenu : WindowId → σ → Reply σ Unit := fun _ s => .still s ()
  /-- Opens a portrait box, given its screen, its palette and whether it has a frame. -/
  createPortraitBox : UInt8 → UInt8 → Bool → σ → Reply σ (Option WindowId) :=
    fun _ _ _ s => .still s none
  showPortrait : WindowId → Portrait → σ → Reply σ Unit := fun _ _ s => .still s ()
  closePortraitBox : WindowId → σ → Reply σ Unit := fun _ s => .still s ()
  monsterName : σ → Int32 → String := fun _ monster => s!"#{monster.toInt}"
  monsterGender : σ → Int32 → Gender := fun _ _ => .invalid
  /-- The first free roster slot below a limit. -/
  firstEmptySlot : σ → Nat → Option Nat := fun _ _ => none
  recruit : Nat → Recruit → σ → Reply σ Unit := fun _ _ s => .still s ()
  setJoined : Int32 → σ → Reply σ Unit := fun _ s => .still s ()
  setupKeyboard : Int32 → σ → Reply σ Unit := fun _ s => .still s ()
  keyboardText : σ → String := fun _ => ""
  /-- Whether the host's own keyboard has been dismissed. -/
  keyboardDismissed : σ → Bool := fun _ => true
  renamePartner : String → σ → Reply σ Unit := fun _ s => .still s ()

/-- The host that provides nothing. -/
instance : Host Unit := {}

end DungeonHooks
