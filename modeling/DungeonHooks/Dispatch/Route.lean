import DungeonHooks.Settings
import DungeonHooks.Saturating

/-! The decisions taken at the host's patched call sites, from the settings alone. -/

namespace DungeonHooks

/-- A routine of the host that is patched to bring events here. -/
inductive HookPoint where
  | applyItemEffect
  | applyMoveEffect
  | specialProcessCall
  | opcodeCheck
  | getParameterCount
  | scriptMenuRequest
  | scriptMenuUpdate
  | keyboardCheck
  | keyboardPrompt
  | keyboardConfirmString
  deriving DecidableEq, Inhabited

/-- Every hook point, in the order they are patched. -/
def HookPoint.installed : List HookPoint :=
  [.applyItemEffect, .applyMoveEffect, .specialProcessCall, .opcodeCheck, .getParameterCount,
    .scriptMenuRequest, .scriptMenuUpdate, .keyboardCheck, .keyboardPrompt, .keyboardConfirmString]

/-- The name a report gives a hook point. -/
def HookPoint.name : HookPoint → String
  | .applyItemEffect => "apply_item_effect"
  | .applyMoveEffect => "apply_move_effect"
  | .specialProcessCall => "special_process_call"
  | .opcodeCheck => "opcode_check"
  | .getParameterCount => "get_parameter_count"
  | .scriptMenuRequest => "script_menu_request"
  | .scriptMenuUpdate => "script_menu_update"
  | .keyboardCheck => "keyboard_check"
  | .keyboardPrompt => "keyboard_prompt"
  | .keyboardConfirmString => "keyboard_confirm_string"

/-- The routine of the host that a hook point replaces. -/
def HookPoint.symbol : HookPoint → String
  | .applyItemEffect => "ApplyItemEffect"
  | .applyMoveEffect => "ApplyMoveEffect"
  | .specialProcessCall => "ScriptSpecialProcessCall"
  | .opcodeCheck => "OpcodeCheck"
  | .getParameterCount => "GetParameterCount"
  | .scriptMenuRequest => "ScriptMenuRequestCheck"
  | .scriptMenuUpdate => "ScriptMenuUpdateCheck"
  | .keyboardCheck => "KeyboardCheck"
  | .keyboardPrompt => "ShowKeyboardTypeDefaultCase"
  | .keyboardConfirmString => "PreprocessStringFromId"

/-- Who runs an opcode: the host, or the instruction at an index. -/
inductive OpcodeRoute where
  | native
  | custom (index : Int32)
  deriving DecidableEq, Inhabited

/-- Opcodes from the first custom one on are custom. The index saturates, and may have no record. -/
def Settings.routeOpcode (settings : Settings) (opcode : Int32) : OpcodeRoute :=
  if settings.firstCustomOpcode ≤ opcode then
    .custom (saturatingSub opcode settings.firstCustomOpcode)
  else .native

/-- Who runs a special process. -/
inductive ProcessRoute where
  | native
  | custom
  deriving DecidableEq, Inhabited

/-- The name of a route. -/
def ProcessRoute.name : ProcessRoute → String
  | .native => "native"
  | .custom => "custom"

/-- Special processes from the threshold on are custom. -/
def Settings.routeProcess (settings : Settings) (id : UInt32) : ProcessRoute :=
  if settings.specialProcessThreshold ≤ id then .custom else .native

/-- The keyboard the host opens for a menu: custom menus share one, others have their own. -/
def Settings.keyboardMode (settings : Settings) (menu : Int32) : Int32 :=
  if settings.firstCustomMenu ≤ menu then settings.keyboardFallbackMode else menu

end DungeonHooks
