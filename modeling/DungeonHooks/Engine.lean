import DungeonHooks.Dispatch.Route
import DungeonHooks.Effect.BeastBoost
import DungeonHooks.Effect.Chain
import DungeonHooks.Instruction.Builtin
import DungeonHooks.Menu.Builtin

/-! The one object a host keeps: settings, effect chain, instructions and menus, behind every hook. -/

namespace DungeonHooks

/-- Everything that answers hooks. The journal travels in the context of each call. -/
structure Engine (σ : Type) : Type 1 where
  settings : Settings
  effects : EffectChain σ
  instructions : InstructionTable σ
  menus : MenuMachine σ

namespace Engine

variable {σ : Type}

/-- An engine of the given effects; instructions and menus are the built-in ones unless replaced. -/
def new [Host σ] (settings : Settings) (effects : LocalEffects σ := .builtin)
    (secondary : List (Resolver σ) := []) (instructions : Option (List (Instruction σ)) := none)
    (menus : Option (List (MenuDescriptor σ)) := none) : Engine σ where
  settings := settings
  effects := .new effects secondary
  instructions :=
    match instructions with
    | some rows => .new settings.firstCustomOpcode rows
    | none => .builtin settings.firstCustomOpcode
  menus :=
    match menus with
    | some rows => .new settings.firstCustomMenu rows
    | none => .builtin settings.firstCustomMenu

/-- The empty journal that the settings ask for. -/
def journal (engine : Engine σ) : Journal :=
  .new engine.settings.journal

/-- Resolves an item use through the chain. -/
def itemEffect (engine : Engine σ) (thrown : Bool) (cx : Context σ) (use : ItemUse) :
    Bool × ItemUse × Engine σ × Context σ :=
  let resolved := engine.effects.itemEffect thrown cx use
  (resolved.handled, resolved.event, { engine with effects := resolved.chain }, resolved.context)

/-- Resolves a move use through the chain. -/
def moveEffect (engine : Engine σ) (cx : Context σ) (use : MoveUse) :
    Bool × MoveUse × Engine σ × Context σ :=
  let resolved := engine.effects.moveEffect cx use
  (resolved.handled, resolved.event, { engine with effects := resolved.chain }, resolved.context)

/-- Resolves a special process through the chain, whatever its id. -/
def specialProcess (engine : Engine σ) (cx : Context σ) (call : ProcessCall) :
    ProcessOutcome × Engine σ × Context σ :=
  let resolved := engine.effects.specialProcess cx call
  (resolved.event, { engine with effects := resolved.chain }, resolved.context)

/-- Answers the special process hook; without a value the host runs its own process. -/
def handleSpecialProcess (engine : Engine σ) (cx : Context σ) (call : ProcessCall) :
    Option Int32 × Engine σ × Context σ :=
  match engine.settings.routeProcess call.id with
  | .native => (none, engine, cx)
  | .custom =>
    -- Handled or not, a custom process has a value.
    let (outcome, engine, cx) := engine.specialProcess cx call
    (some outcome.value, engine, cx)

/-- The operand words of the instruction at an index. -/
def parameterCount (engine : Engine σ) (index : Int32) (cx : Context σ) :
    Except OutOfRange UInt8 × Context σ :=
  engine.instructions.parameterCount index cx

/-- The operand words of an opcode; the host knows those of its own opcodes itself. -/
def opcodeParameterCount (engine : Engine σ) (opcode : Int32) (cx : Context σ) :
    Except OutOfRange (Option UInt8) × Context σ :=
  match engine.settings.routeOpcode opcode with
  | .native => (.ok none, cx)
  | .custom index =>
    let (count, cx) := engine.parameterCount index cx
    (count.map some, cx)

/-- Runs the instruction at an index for a script routine. -/
def dispatch (engine : Engine σ) (index : Int32) (args : List UInt16) (routine : Routine)
    (cx : Context σ) : Except OutOfRange Unit × Routine × Context σ :=
  engine.instructions.dispatch index args routine cx

/-- Answers the opcode hook: the host's opcodes are handed back, custom ones are run. -/
def handleOpcode (engine : Engine σ) (opcode : Int32) (args : List UInt16) (routine : Routine)
    (cx : Context σ) : Except OutOfRange OpcodeRoute × Routine × Context σ :=
  let route := engine.settings.routeOpcode opcode
  match route with
  | .native => (.ok route, routine, cx)
  | .custom index =>
    -- The route is answered only if there is such an instruction.
    let (ran, routine, cx) := engine.dispatch index args routine cx
    (ran.map fun _ => route, routine, cx)

/-- What a menu call answers, and the engine and the context after it. -/
def menuCall {α : Type} (engine : Engine σ) (reply : MenuReply σ α) :
    Except Halt α × Engine σ × Context σ :=
  (reply.answer, { engine with menus := reply.machine }, reply.context)

/-- Starts a custom menu. -/
def startMenu (engine : Engine σ) (menu : Int32) (cx : Context σ) :
    Except Halt (Except OutOfRange Unit) × Engine σ × Context σ :=
  engine.menuCall (engine.menus.start menu cx)

/-- Advances a custom menu by a frame. -/
def stepMenu (engine : Engine σ) (menu : Int32) (cx : Context σ) :
    Except Halt MenuStep × Engine σ × Context σ :=
  engine.menuCall (engine.menus.step menu cx)

/-- The prompt of a custom menu's keyboard; none leaves the host's own. -/
def keyboardPrompt (engine : Engine σ) (menu : Int32) : Option UInt16 :=
  if menu < engine.settings.firstCustomMenu then none
  else (engine.menus.descriptor? menu).bind (·.keyboardPrompt)

/-- The text asking to confirm what was typed: the running menu's, or else the host's. -/
def confirmString (engine : Engine σ) (default : UInt16) : UInt16 :=
  (engine.menus.active?.bind (·.keyboardConfirm)).getD default

end Engine

end DungeonHooks
