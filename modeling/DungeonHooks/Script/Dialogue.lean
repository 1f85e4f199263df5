import DungeonHooks.Context
import DungeonHooks.Host.Basic
import DungeonHooks.Script.Store

/-! What a running script says to its host, and what is left when it ends. -/

namespace DungeonHooks.Script

/-- A run of a script, as far as the host takes part in it. -/
inductive Dialogue (α : Type) where
  | done (value : α)
  /-- Asks for a random value between two bounds. -/
  | draw (low high : Int32) (next : Int32 → Dialogue α)
  /-- Adds a line to the journal. -/
  | say (message : String) (next : Dialogue α)
  /-- Asks for a border color, which counts only if the event is claimed. -/
  | paint (color : Int32) (next : Dialogue α)

namespace Dialogue

variable {α β : Type}

/-- Goes on with what a dialogue ends in. -/
def bind : Dialogue α → (α → Dialogue β) → Dialogue β
  | done value, f => f value
  | draw low high next, f => draw low high fun drawn => (next drawn).bind f
  | say message next, f => say message (next.bind f)
  | paint color next, f => paint color (next.bind f)

instance : Monad Dialogue where
  pure := done
  bind := bind

/-- What came of a dialogue with a host: the value, the colors asked for, and the context after it. -/
structure Held (σ α : Type) where
  value : α
  colors : List Int32
  context : Context σ

/-- Holds a dialogue. Draws and lines reach the host at once, colors are kept for later. -/
def hold {σ : Type} [Host σ] (category : Category) : Dialogue α → Context σ → Held σ α
  | done value, context => { value, colors := [], context }
  | draw low high next, context =>
    let (drawn, context) := context.call (Host.randRange low high)
    (next drawn).hold category context
  | say message next, context => next.hold category (context.info category message)
  | paint color next, context =>
    let held := next.hold category context
    { held with colors := color :: held.colors }

/-- What a dialogue ends in when no host takes part; a draw gives its lower bound. -/
def alone : Dialogue α → α
  | done value => value
  | draw low _ next => (next low).alone
  | say _ next => next.alone
  | paint _ next => next.alone

end Dialogue

/-- Why a run was broken off. -/
inductive Raise where
  /-- An error that the script may catch. -/
  | thrown (value : Value)
  /-- The bound on steps was reached. -/
  | endless
  deriving Inhabited

/-- A step of a script: from a store to a value and a new store. What was done before an error stays done. -/
def Run (α : Type) : Type :=
  Store → Dialogue (Except Raise α × Store)

namespace Run

variable {α β : Type}

/-- Goes on with the value of a step, unless it was broken off. -/
def bind (first : Run α) (next : α → Run β) : Run β := fun store =>
  (first store).bind fun (result, store) =>
    match result with
    | .ok value => next value store
    | .error raise => .done (.error raise, store)

instance : Monad Run where
  pure value := fun store => .done (.ok value, store)
  bind := bind

/-- Breaks off. -/
def raise (raise : Raise) : Run α := fun store =>
  .done (.error raise, store)

/-- The store as it is. -/
def store : Run Store := fun store =>
  .done (.ok store, store)

/-- Changes the store. -/
def update (change : Store → Store) : Run Unit := fun store =>
  .done (.ok (), change store)

/-- Adds something to the store. -/
def add (extend : Store → Nat × Store) : Run Nat := fun store =>
  let (id, store) := extend store
  .done (.ok id, store)

/-- Runs a step and tells how it ended; only the end of all steps cannot be caught. -/
def attempt (step : Run α) : Run (Except Value α) := fun store =>
  (step store).bind fun (result, store) =>
    match result with
    | .ok value => .done (.ok (.ok value), store)
    | .error (.thrown value) => .done (.ok (.error value), store)
    | .error .endless => .done (.error .endless, store)

/-- Asks the host for a random value. -/
def draw (low high : Int32) : Run Int32 := fun store =>
  .draw low high fun drawn => .done (.ok drawn, store)

/-- Has the host add a line to the journal. -/
def say (message : String) : Run Unit := fun store =>
  .say message (.done (.ok (), store))

/-- Asks the host for a border color. -/
def paint (color : Int32) : Run Unit := fun store =>
  .paint color (.done (.ok (), store))

end Run

end DungeonHooks.Script
