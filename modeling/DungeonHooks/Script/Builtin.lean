import DungeonHooks.Script.Frame

/-! The functions that every program finds, and the services that the host offers to a handler. -/

namespace DungeonHooks.Script

/-- An argument of a builtin function that is not what it takes. -/
def Site.refuse {α : Type} (site : Site) (position : Nat) (wanted : Expectation)
    (args : List Value) : Run α :=
  let type := args[position - 1]?.map (·.typeName)
  Run.fail site.line (.argument position site.callee wanted type)

/-- An argument that has to be a number, or the text of one. -/
def Site.number (site : Site) (args : List Value) (position : Nat) : Run Number :=
  match args[position - 1]?.bind (·.toNumber?) with
  | some n => return n
  | none => site.refuse position (.type "number") args

/-- All arguments from a position on, which have to be numbers. -/
def Site.numbers (site : Site) (args : List Value) (position : Nat) : Run (List Number) :=
  (List.range' position (args.length + 1 - position)).mapM (site.number args)

/-- Throws the first argument. A text gets the position of the call at a level before it, the innermost by default. -/
def throwFirst (site : Site) (args : List Value) : Run (List Value) := do
  let level ← match args[1]?.getD .nil with
    | .nil => pure (1 : Int)
    | _ => do pure ((← site.number args 2).truncated?.getD 0)
  let value := args.headD .nil
  match value.toBytes? with
  | some bytes =>
    if 0 < level then
      let line := lineOf (level.toNat - 1) site.calls.callers
      Run.throw (.text (position (← Run.store) line ++ bytes))
    else Run.throw value
  | none => Run.throw value

/-- One step of an iteration over a sequence: the next number and its value, or nothing at the end. -/
def stepSequence (site : Site) (args : List Value) : Run (List Value) := do
  let last := (← site.number args 2).truncated?.getD 0
  match args.headD .nil with
  | .table id =>
    let value := (← Run.store).get id (.whole (last + 1))
    if value.isNil then return [] else return [.ofInt (last + 1), value]
  | _ => site.refuse 1 (.type "table") args

/-- Calls a builtin function that calls no other. -/
def callSimple (site : Site) (function : Builtin) (args : List Value) : Run (List Value) :=
  match function with
  | .error => throwFirst site args
  | .ipairsStep => stepSequence site args
  | .ipairs =>
    match args with
    | .table id :: _ => return [.builtin .ipairsStep, .table id, .ofInt 0]
    | args => site.refuse 1 (.type "table") args
  | .tostring =>
    match args with
    | value :: _ => return [.text value.display]
    | [] => site.refuse 1 .anything args
  | .floor => do return [.number (← site.number args 1).floor]
  | .max => do
    let first ← site.number args 1
    let rest ← site.numbers args 2
    return [.number (rest.foldl (fun best n => if best.lt n then n else best) first)]
  | .min => do
    let first ← site.number args 1
    let rest ← site.numbers args 2
    return [.number (rest.foldl (fun best n => if n.lt best then n else best) first)]
  | .pcall => return []

/-- Converts an argument for a service of the host. -/
def serviceArgument {α : Type} (convert : Value → Except ConversionError α) (args : List Value)
    (position : Nat) : Run α :=
  match convert (args[position - 1]?.getD .nil) with
  | .ok value => return value
  | .error error => Run.throw (.fault (.argument position error))

/-- Calls a service of the host, as it was offered to one call of a handler. -/
def callService (session : Nat) (service : Service) (args : List Value) : Run (List Value) := do
  let store ← Run.store
  if !(store.serving && store.sessions == session) then Run.throw (.fault .expired)
  match service with
  | .borderColor =>
    Run.paint (← serviceArgument Value.toWord args 1)
    return []
  | .rand =>
    let low ← serviceArgument Value.toWord args 1
    let high ← serviceArgument Value.toWord args 2
    return [.ofInt (← Run.draw low high).toInt]
  | .log =>
    Run.say (← serviceArgument Value.toText args 1)
    return []

end DungeonHooks.Script
