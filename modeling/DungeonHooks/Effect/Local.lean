import Std.Data.TreeMap
import DungeonHooks.Effect.Resolver

/-! The effects built into the runtime, keyed by item, move and special process id. -/

namespace DungeonHooks

/-- Handles an item use: whether it is claimed, the use afterwards, and the context. -/
abbrev ItemHandler (σ : Type) := Bool → Context σ → ItemUse → Bool × ItemUse × Context σ

/-- Handles a move use: whether it is claimed, the use afterwards, and the context. -/
abbrev MoveHandler (σ : Type) := Context σ → MoveUse → Bool × MoveUse × Context σ

/-- Runs a special process and gives its value; there is no declining. -/
abbrev ProcessHandler (σ : Type) := ProcessCall → Context σ → Int32 × Context σ

/-- The local table of handlers. A later handler for an id replaces an earlier one. -/
structure LocalEffects (σ : Type) where
  items : Std.TreeMap UInt16 (ItemHandler σ) := {}
  moves : Std.TreeMap UInt16 (MoveHandler σ) := {}
  processes : Std.TreeMap UInt32 (ProcessHandler σ) := {}

/-- The item whose own effect is replaced by one on every move. -/
def elixir : UInt16 := 99

/-- How many uses the elixir gives back to a move. -/
def elixirRestores : UInt8 := 10

/-- Restores uses of all the target's moves. Without a monster there is nothing to do, but it is claimed. -/
def restoreAllPp {σ : Type} : ItemHandler σ := fun _ cx use =>
  match use.target.monster with
  | none => (true, use, cx)
  | some monster =>
    let moves := monster.moves.map (·.restorePp elixirRestores)
    let target := { use.target with monster := some { monster with moves } }
    -- The journal counts all moves, also those that were full already.
    let cx := cx.info .effects
      s!"Item {use.item.id} restored up to {elixirRestores} PP on {moves.length} moves"
    (true, { use with target }, cx)

/-- The special process that recolours the borders of all windows. -/
def changeBorderColorId : UInt32 := 100

/-- Sets the global border colour to the first argument. -/
def changeBorderColor {σ : Type} [Host σ] : ProcessHandler σ := fun call cx =>
  let color := call.first.toInt32
  let cx := cx.tell (Host.changeBorderColor color)
  (0, cx.info .specialProcess s!"Changed global border color to {color.toInt}")

namespace LocalEffects

variable {σ : Type}

/-- The handlers that come with the runtime. -/
def builtin [Host σ] : LocalEffects σ :=
  { items := ({} : Std.TreeMap _ _).insert elixir restoreAllPp
    processes := ({} : Std.TreeMap _ _).insert changeBorderColorId changeBorderColor }

/-- The name under which the table joins the chain. -/
def name : String := "local"

/-- The table as the first link of the chain. It remembers nothing. -/
def resolver (effects : LocalEffects σ) : Resolver σ where
  name := name
  Memory := Unit
  memory := ()
  onItem thrown _ cx use :=
    match effects.items[use.item.id]? with
    | some handler =>
      let (claimed, event, context) := handler thrown cx use
      { claimed, event, memory := (), context }
    | none => .declined () cx use
  onMove _ cx use :=
    match effects.moves[use.input.moveId]? with
    | some handler =>
      let (claimed, event, context) := handler cx use
      { claimed, event, memory := (), context }
    | none => .declined () cx use
  onProcess call _ cx value :=
    match effects.processes[call.id]? with
    | some handler =>
      let (event, context) := handler call cx
      { claimed := true, event, memory := (), context }
    | none => .declined () cx value

end LocalEffects

end DungeonHooks
