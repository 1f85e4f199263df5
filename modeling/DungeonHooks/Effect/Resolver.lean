import DungeonHooks.Effect.Event
import DungeonHooks.Host.Basic

/-! Resolvers: the links of the chain that may claim an effect, each with a memory of its own. -/

namespace DungeonHooks

/-- What a handler left behind: whether it claimed, the event, its memory, and the context. -/
structure Handled (σ μ ε : Type) where
  claimed : Bool
  event : ε
  memory : μ
  context : Context σ

/-- A handler that leaves everything as it was and claims nothing. -/
def Handled.declined {σ μ ε : Type} (memory : μ) (context : Context σ) (event : ε) :
    Handled σ μ ε :=
  { claimed := false, event, memory, context }

/-- A link of the chain. A resolver that declines has to leave the event alone. -/
structure Resolver (σ : Type) : Type 1 where
  name : String
  Memory : Type
  memory : Memory
  /-- Handles an item use; the flag says whether the item was thrown. -/
  onItem : Bool → Memory → Context σ → ItemUse → Handled σ Memory ItemUse :=
    fun _ => Handled.declined
  onMove : Memory → Context σ → MoveUse → Handled σ Memory MoveUse := Handled.declined
  /-- Handles a special process; the event is the value for the script, which starts at 0. -/
  onProcess : ProcessCall → Memory → Context σ → Int32 → Handled σ Memory Int32 :=
    fun _ => Handled.declined

/-- What became of asking one resolver: as `Handled`, with the resolver as it is afterwards. -/
structure Verdict (σ ε : Type) : Type 1 where
  claimed : Bool
  event : ε
  resolver : Resolver σ
  context : Context σ

namespace Resolver

variable {σ ε : Type}

/-- Runs one of the resolver's handlers and keeps the memory it leaves. -/
def ask (resolver : Resolver σ)
    (handler : resolver.Memory → Context σ → ε → Handled σ resolver.Memory ε)
    (cx : Context σ) (event : ε) : Verdict σ ε :=
  let after := handler resolver.memory cx event
  { claimed := after.claimed
    event := after.event
    resolver := { resolver with memory := after.memory }
    context := after.context }

/-- Asks the resolver about an item use. -/
def item (thrown : Bool) (resolver : Resolver σ) (cx : Context σ) (use : ItemUse) :
    Verdict σ ItemUse :=
  resolver.ask (resolver.onItem thrown) cx use

/-- Asks the resolver about a move use. -/
def move (resolver : Resolver σ) (cx : Context σ) (use : MoveUse) : Verdict σ MoveUse :=
  resolver.ask resolver.onMove cx use

/-- Asks the resolver about a special process. -/
def process (call : ProcessCall) (resolver : Resolver σ) (cx : Context σ) (value : Int32) :
    Verdict σ Int32 :=
  resolver.ask (resolver.onProcess call) cx value

end Resolver

end DungeonHooks
