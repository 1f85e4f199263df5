import DungeonHooks.Engine
import DungeonHooks.Files
import DungeonHooks.Replay.Report

/-! Replaying a scenario against an engine, step by step. -/

namespace DungeonHooks.Replay

/-- Why a use of an item or a move cannot be replayed. -/
inductive Misnomer where
  | unknownItem (name : String)
  | sameEntity (name : String)
  | unknownEntity (name : String)
  deriving DecidableEq, Inhabited

/-- The text of a cause. -/
def Misnomer.message : Misnomer → String
  | .unknownItem name => s!"unknown item '{name}'"
  | .sameEntity name => s!"user and target must be different entities (both '{name}')"
  | .unknownEntity name => s!"unknown entity '{name}'"

/-- Why a replay ended before its last step. -/
inductive Stop where
  | misnamed (index : Nat) (cause : Misnomer)
  | halted (halt : Halt)
  deriving DecidableEq, Inhabited

/-- A stop as an error with its cause. -/
def Stop.failure : Stop → Failure
  | .misnamed index (.unknownItem name) =>
    { message := s!"step {index}: {(Misnomer.unknownItem name).message}" }
  | .misnamed index cause => { message := s!"step {index}", causes := [cause.message] }
  | .halted halt => { message := halt.report }

/-- All that a step may change. -/
structure Session where
  engine : Engine SimulatedHost
  context : Context SimulatedHost
  entities : Std.TreeMap String Entity
  items : Std.TreeMap String Item
  routine : Routine := {}

/-- The session in which nothing has happened yet. -/
def Session.start (engine : Engine SimulatedHost) (context : Context SimulatedHost)
    (world : WorldSetup) : Session where
  engine := engine
  context := context
  entities := world.entities
  items := world.items

/-- Two different entities of the session. -/
def Session.pair (session : Session) (user target : String) : Except Misnomer (Entity × Entity) :=
  if user == target then .error (.sameEntity user) else
    match session.entities[target]?, session.entities[user]? with
    | none, _ => .error (.unknownEntity target)
    | _, none => .error (.unknownEntity user)
    | some targetEntity, some userEntity => .ok (userEntity, targetEntity)

/-- Writes two entities back. -/
def Session.putPair (session : Session) (user target : String) (pair : Entity × Entity) : Session :=
  { session with entities := (session.entities.insert user pair.1).insert target pair.2 }

/-- A number in hexadecimal, as its 32 bits stand. -/
def hexWord (n : Int32) : String :=
  "0x" ++ Text.hex n.toUInt32.toNat

/-- Operand words cut, or filled up with zeros, to a count. -/
def operands (count : Nat) (args : List UInt16) : List UInt16 :=
  args.take count ++ List.replicate (count - args.length) 0

/-- What becomes of an opcode: the operand count and the index of the instruction that ran, or nothing if it is left to the host. -/
abbrev OpcodeAnswer := Except OutOfRange (Option (UInt8 × Int32))

/-- The answer to an opcode with a known operand count. -/
def OpcodeAnswer.ofRoute (count : UInt8) : OpcodeRoute → Option (UInt8 × Int32)
  | .native => none
  | .custom index => some (count, index)

/-- Handles an opcode with as many words as its operand count tells, unless there is none. -/
def answerCounted (step : OpcodeStep) (session : Session) :
    Except OutOfRange (Option UInt8) → OpcodeAnswer × Routine × Context SimulatedHost
  | .error error => (.error error, session.routine, session.context)
  | .ok none => (.ok none, session.routine, session.context)
  | .ok (some count) =>
    -- Missing words count as zero, and surplus ones are left out.
    let words := operands count.toNat step.args
    let (route, routine, cx) :=
      session.engine.handleOpcode step.opcode words session.routine session.context
    (route.map (OpcodeAnswer.ofRoute count), routine, cx)

/-- Has an opcode answered: its operand count is asked for first. -/
def answerOpcode (step : OpcodeStep) (session : Session) :
    OpcodeAnswer × Routine × Context SimulatedHost :=
  let (counted, context) := session.engine.opcodeParameterCount step.opcode session.context
  answerCounted step { session with context } counted

/-- The report of an opcode. -/
def OpcodeStep.reported (step : OpcodeStep) (report : StepReport) : OpcodeAnswer → StepReport
  | .error error => { report with error := some error.message }
  | .ok none => { report with detail := some s!"opcode {hexWord step.opcode} left to host" }
  | .ok (some (count, index)) =>
    { report with handled := true, value := some index, detail := some s!"{count} parameters" }

/-- Replays an opcode. -/
def runOpcode (step : OpcodeStep) (report : StepReport) (session : Session) :
    StepReport × Session :=
  let (answer, routine, context) := answerOpcode step session
  (step.reported report answer, { session with routine, context })

/-- The use of an item by one entity of the session on another. -/
def Session.itemUse (session : Session) (step : ItemStep) : Except Misnomer ItemUse := do
  let item ← match session.items[step.item]? with
    | some item => .ok item
    | none => .error (.unknownItem step.item)
  let (user, target) ← session.pair step.user step.target
  return { user, target, item }

/-- Replays the use of an item. -/
def runItem (step : ItemStep) (report : StepReport) (use : ItemUse) (session : Session) :
    StepReport × Session :=
  let (handled, use, engine, cx) := session.engine.itemEffect step.thrown session.context use
  let detail := if handled then none else some s!"item {use.item.id} left to host"
  -- The item is stored as the event left it, whether it was handled or not.
  let items := session.items.insert step.item use.item
  let session := { session with engine, context := cx, items }
  ({ report with handled, detail }, session.putPair step.user step.target (use.user, use.target))

/-- The host's own damage: takes hit points, and makes the target invalid when none are left. Without a monster or power nothing is hit. -/
def nativeDamage (power : Int32) (target : Entity) : Bool × Entity :=
  match target.monster with
  | none => (false, target)
  | some monster =>
    if power ≤ 0 then (false, target) else
      let hp := max (saturatingSub monster.hp power) 0
      -- Hit points do not fall below zero, and damage below zero heals nobody.
      (true,
        { valid := if hp == 0 then false else target.valid, monster := some { monster with hp } })

/-- Writes the copy of a used move back into the user's list. -/
def storeMove (slot : Option Nat) (used : Move) (user : Entity) : Entity :=
  match slot, user.monster with
  | some slot, some monster =>
    { user with monster := some { monster with moves := monster.moves.set slot used } }
  | _, _ => user

/-- The first slot of a user's move list that holds a move. -/
def moveSlot (id : UInt16) (user : Entity) : Option Nat :=
  user.monster.bind fun monster => monster.moves.findIdx? (·.id == id)

/-- The user's own copy of a move, or one without any uses if the user does not know it. -/
def usedMove (id : UInt16) (user : Entity) : Move :=
  let known := user.monster.bind fun monster => monster.moves.find? (·.id == id)
  known.getD { id, pp := 0, maxPp := 0 }

/-- What came of a move before the ability check; `hit` tells whether it struck the target. -/
structure Struck : Type 1 where
  handled : Bool
  hit : Bool
  user : Entity
  target : Entity
  engine : Engine SimulatedHost
  context : Context SimulatedHost

/-- Whether a move hit, and the target after it: as the effect chain decided, else by the host's damage. -/
def MoveStep.landed (step : MoveStep) (handled : Bool) (use : MoveUse) : Bool × Entity :=
  if handled then (use.input.dealtDamage, use.target) else nativeDamage step.power use.target

/-- Lets a move strike: the effect chain decides, else the host's damage. -/
def strike (step : MoveStep) (pair : Entity × Entity) (session : Session) : Struck :=
  let (user, target) := pair
  let slot := moveSlot step.moveId user
  let used := usedMove step.moveId user
  let input : MoveInput := { moveId := step.moveId, itemId := step.itemId }
  let (handled, use, engine, context) :=
    session.engine.moveEffect session.context { input, user, target, used }
  -- The host deals its own damage only if nothing claimed the move.
  let (hit, target) := step.landed handled use
  { handled, hit, user := storeMove slot use.used use.user, target, engine, context }

/-- What the report of a move tells: the damage if it was the host's own, and an ability that acted. -/
def MoveStep.detail (step : MoveStep) (handled boosted : Bool) : Option String :=
  let native := s!"native damage {step.power.toInt}"
  match handled, boosted with
  | true, false => none
  | true, true => some "beast boost"
  | false, false => some native
  | false, true => some (native ++ ", beast boost")

/-- Checks the ability of the user after a hit. -/
def Struck.check (struck : Struck) : Bool × Entity × Context SimulatedHost :=
  if struck.hit then checkBeastBoost struck.context struck.user struck.target
  else (false, struck.user, struck.context)

/-- Replays a move: it strikes, and after a hit the ability is checked. -/
def runMove (step : MoveStep) (report : StepReport) (pair : Entity × Entity) (session : Session) :
    StepReport × Session :=
  let struck := strike step pair session
  let (boosted, user, context) := struck.check
  let session := { session with engine := struck.engine, context }
  ({ report with handled := struck.handled, detail := step.detail struck.handled boosted },
    session.putPair step.user step.target (user, struck.target))

/-- The report of a special process: its value, or that it is left to the host. -/
def StepReport.processed (report : StepReport) (call : ProcessCall) : Option Int32 → StepReport
  | some value => { report with handled := true, value := some value }
  | none =>
    { report with value := some 0, detail := some s!"special process {call.id} left to host" }

/-- Replays a special process. -/
def runProcess (call : ProcessCall) (report : StepReport) (session : Session) :
    StepReport × Session :=
  let (value, engine, cx) := session.engine.handleSpecialProcess session.context call
  (report.processed call value, { session with engine, context := cx })

/-- The report of a menu that finished within a number of frames. -/
def StepReport.finished (report : StepReport) (value : Int32) (frames : Nat) : StepReport :=
  { report with
    handled := true, value := some value, detail := some s!"finished after {frames} frames" }

/-- The report of a menu that was still running after all its frames. -/
def StepReport.running (report : StepReport) (step : MenuVisit) : StepReport :=
  let { menu, frameLimit, .. } := step
  { report with
    error := some s!"script menu {menu.toInt} still running after {frameLimit} frames" }

/-- Polls a started menu every frame until it finishes or the frames that it may take are over. -/
def pollMenu (step : MenuVisit) (report : StepReport) (session : Session) :
    Nat → Except Halt (StepReport × Session)
  | 0 => .ok (report.running step, session)
  | left + 1 =>
    let (answer, engine, cx) := session.engine.stepMenu step.menu session.context
    match answer with
    | .error halt => .error halt
    | .ok polled =>
      if polled.finished then
        .ok (report.finished polled.returnValue (step.frameLimit - left),
          { session with engine, context := cx })
      else
        -- Input arrives between two polls, never before the first.
        let cx := { cx with host := cx.host.advanceFrame }
        pollMenu step report { session with engine, context := cx } left

/-- Replays a menu: queues the player's input, starts the menu and polls it. -/
def runMenu (step : MenuVisit) (report : StepReport) (session : Session) :
    Except Halt (StepReport × Session) :=
  let cx := session.context
  -- The input is queued before the menu is known to exist, and stays if it does not.
  let cx := { cx with host := cx.host.queueInput step.input }
  let (answer, engine, cx) := session.engine.startMenu step.menu cx
  let session := { session with engine, context := cx }
  match answer with
  | .error halt => .error halt
  | .ok (.error error) => .ok ({ report with error := some error.message }, session)
  | .ok (.ok ()) => pollMenu step report session step.frameLimit

/-- Replays one step. -/
def runStep (index : Nat) (step : Step) (session : Session) : Except Stop (StepReport × Session) :=
  let report : StepReport := { index, kind := step.kind }
  match step with
  | .opcode step => .ok (runOpcode step report session)
  | .useItem step =>
    match session.itemUse step with
    | .ok use => .ok (runItem step report use session)
    | .error cause => .error (.misnamed index cause)
  | .useMove step =>
    match session.pair step.user step.target with
    | .ok pair => .ok (runMove step report pair session)
    | .error cause => .error (.misnamed index cause)
  | .specialProcess call => .ok (runProcess call report session)
  | .menu step => (runMenu step report session).mapError .halted

/-- Logs that a step is over. -/
def Session.logStep (session : Session) (report : StepReport) : Session :=
  let message := s!"step {report.index} ({report.kind}) handled={report.handled}"
  { session with context := session.context.say (SimulatedHost.said .debug message) }

/-- Replays steps from an index on: the reports so far and the session after them, and why it stopped if it did. -/
def runSteps : Nat → List Step → Session → List StepReport × Session × Option Stop
  | _, [], session => ([], session, none)
  | index, step :: rest, session =>
    match runStep index step session with
    -- Without a report of its own, the step ends the replay.
    | .error stop => ([], session, some stop)
    | .ok (report, session) =>
      let (reports, session, stop) := runSteps (index + 1) rest (session.logStep report)
      (report :: reports, session, stop)

/-- What came of a replay: a report or the reason for stopping, the context at the end, and the engine. -/
structure Outcome : Type 1 where
  result : Except Stop Report
  context : Context SimulatedHost
  engine : Engine SimulatedHost

/-- Replays a scenario on a host as it stands. A finished replay takes the journal into its report. -/
def replay (scenario : Scenario) (engine : Engine SimulatedHost)
    (context : Context SimulatedHost) : Outcome :=
  let (steps, session, stop) := runSteps 0 scenario.steps (.start engine context scenario.world)
  match stop with
  | some stop =>
    { result := .error stop, context := session.context, engine := session.engine }
  | none =>
    -- The journal goes into the report, so that a later replay begins with none.
    let (journal, emptied) := session.context.journal.take
    { result := .ok
        { scenario := scenario.name
          resolvers := session.engine.effects.names
          hooks := HookPoint.installed
          steps
          entities := session.entities.toList
          items := session.items.toList
          host := session.context.host.snapshot
          journal }
      context := { session.context with journal := emptied }
      engine := session.engine }

/-- Replays a scenario on the host of its own world. -/
def run (scenario : Scenario) (engine : Engine SimulatedHost) : Outcome :=
  replay scenario engine { host := scenario.world.host, journal := engine.journal }

end DungeonHooks.Replay
