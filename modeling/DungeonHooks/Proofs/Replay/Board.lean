import DungeonHooks.Host.Recorder
import DungeonHooks.Replay.Run

/-! The same replay on any host that a player sits at, with the context apart from all else. -/

namespace DungeonHooks.Replay

/-- A host that a player sits at: input is queued on it, and applied frame by frame. -/
class Played (σ : Type) where
  queueInput : σ → PlayerInput → σ
  advanceFrame : σ → σ

instance : Played SimulatedHost where
  queueInput := SimulatedHost.queueInput
  advanceFrame := SimulatedHost.advanceFrame

/-- The player of a recording host sits at the one underneath. -/
instance {σ ν : Type} [Played σ] : Played (Recorder σ ν) where
  queueInput recorder input := { recorder with host := Played.queueInput recorder.host input }
  advanceFrame recorder := { recorder with host := Played.advanceFrame recorder.host }

/-- All that a step may change, but the context. -/
structure Board (σ : Type) : Type 1 where
  engine : Engine σ
  entities : Std.TreeMap String Entity
  items : Std.TreeMap String Item
  routine : Routine := {}

namespace Board

variable {σ : Type}

/-- The board on which nothing has happened yet. -/
def start (engine : Engine σ) (world : WorldSetup) : Board σ where
  engine := engine
  entities := world.entities
  items := world.items

/-- Two different entities of the board. -/
def pair (board : Board σ) (user target : String) : Except Misnomer (Entity × Entity) :=
  if user == target then .error (.sameEntity user) else
    match board.entities[target]?, board.entities[user]? with
    | none, _ => .error (.unknownEntity target)
    | _, none => .error (.unknownEntity user)
    | some targetEntity, some userEntity => .ok (userEntity, targetEntity)

/-- Writes two entities back. -/
def putPair (board : Board σ) (user target : String) (pair : Entity × Entity) : Board σ :=
  { board with entities := (board.entities.insert user pair.1).insert target pair.2 }

/-- The use of an item by one entity of the board on another. -/
def itemUse (board : Board σ) (step : ItemStep) : Except Misnomer ItemUse := do
  let item ← match board.items[step.item]? with
    | some item => .ok item
    | none => .error (.unknownItem step.item)
  let (user, target) ← board.pair step.user step.target
  return { user, target, item }

/-- What a step reports, the board after it, and the context after it. -/
abbrev Moved (σ : Type) := (StepReport × Board σ) × Context σ

section

variable [Host σ] (report : StepReport) (board : Board σ) (cx : Context σ)

/-- Handles an opcode with as many words as its operand count tells, unless there is none. -/
def answerCounted (step : OpcodeStep) :
    Except OutOfRange (Option UInt8) → (OpcodeAnswer × Routine) × Context σ
  | .error error => ((.error error, board.routine), cx)
  | .ok none => ((.ok none, board.routine), cx)
  | .ok (some count) =>
    let words := operands count.toNat step.args
    let (route, routine, cx) := board.engine.handleOpcode step.opcode words board.routine cx
    ((route.map (OpcodeAnswer.ofRoute count), routine), cx)

/-- Has an opcode answered: its operand count is asked for first. -/
def answer (step : OpcodeStep) : (OpcodeAnswer × Routine) × Context σ :=
  let (counted, cx) := board.engine.opcodeParameterCount step.opcode cx
  board.answerCounted cx step counted

/-- Replays an opcode. -/
def opcode (step : OpcodeStep) : Moved σ :=
  let ((answer, routine), cx) := board.answer cx step
  ((step.reported report answer, { board with routine }), cx)

/-- Replays the use of an item. -/
def useItem (step : ItemStep) (use : ItemUse) : Moved σ :=
  let (handled, use, engine, cx) := board.engine.itemEffect step.thrown cx use
  let detail := if handled then none else some s!"item {use.item.id} left to host"
  let items := board.items.insert step.item use.item
  (({ report with handled, detail },
    { board with engine, items }.putPair step.user step.target (use.user, use.target)), cx)

/-- Checks the ability of a user after a hit. -/
def check (hit : Bool) (user target : Entity) (cx : Context σ) : (Bool × Entity) × Context σ :=
  if hit then
    let (boosted, user, cx) := checkBeastBoost cx user target
    ((boosted, user), cx)
  else ((false, user), cx)

/-- Replays the use of a move. -/
def useMove (step : MoveStep) (pair : Entity × Entity) : Moved σ :=
  let (user, target) := pair
  let used := usedMove step.moveId user
  let input : MoveInput := { moveId := step.moveId, itemId := step.itemId }
  let (handled, use, engine, cx) := board.engine.moveEffect cx { input, user, target, used }
  let (hit, target) := step.landed handled use
  let ((boosted, user), cx) :=
    check hit (storeMove (moveSlot step.moveId user) use.used use.user) target cx
  (({ report with handled, detail := step.detail handled boosted },
    { board with engine }.putPair step.user step.target (user, target)), cx)

/-- Replays a special process. -/
def specialProcess (call : ProcessCall) : Moved σ :=
  let (value, engine, cx) := board.engine.handleSpecialProcess cx call
  ((report.processed call value, { board with engine }), cx)

variable [Played σ]

/-- What follows on a poll: nothing any more, or a frame of input before all that is next. -/
def afterPoll (report : Int32 → StepReport)
    (next : Board σ → Context σ → Except Halt (StepReport × Board σ) × Context σ)
    (answer : Except Halt MenuStep) (board : Board σ) (cx : Context σ) :
    Except Halt (StepReport × Board σ) × Context σ :=
  match answer with
  | .error halt => (.error halt, cx)
  | .ok polled =>
    if polled.finished then (.ok (report polled.returnValue, board), cx)
    else next board { cx with host := Played.advanceFrame cx.host }

/-- Polls a started menu every frame until it finishes or the frames that it may take are over. -/
def pollMenu (step : MenuVisit) (report : StepReport) :
    Nat → Board σ → Context σ → Except Halt (StepReport × Board σ) × Context σ
  | 0, board, cx => (.ok (report.running step, board), cx)
  | left + 1, board, cx =>
    let (answer, engine, cx) := board.engine.stepMenu step.menu cx
    afterPoll (report.finished · (step.frameLimit - left)) (pollMenu step report left) answer
      { board with engine } cx

/-- What follows on the start of a menu: it is polled, unless it does not exist. -/
def afterStart (step : MenuVisit) (report : StepReport)
    (answer : Except Halt (Except OutOfRange Unit)) (board : Board σ) (cx : Context σ) :
    Except Halt (StepReport × Board σ) × Context σ :=
  match answer with
  | .error halt => (.error halt, cx)
  | .ok (.error error) => (.ok ({ report with error := some error.message }, board), cx)
  | .ok (.ok ()) => pollMenu step report step.frameLimit board cx

/-- Replays a menu: queues the player's input, starts the menu and polls it. -/
def menu (step : MenuVisit) : Except Halt (StepReport × Board σ) × Context σ :=
  let cx := { cx with host := Played.queueInput cx.host step.input }
  let (answer, engine, cx) := board.engine.startMenu step.menu cx
  afterStart step report answer { board with engine } cx

/-- Replays one step. -/
def step (index : Nat) (step : Step) (board : Board σ) (cx : Context σ) :
    Except Stop (StepReport × Board σ) × Context σ :=
  let report : StepReport := { index, kind := step.kind }
  match step with
  | .opcode step =>
    let (moved, cx) := board.opcode report cx step
    (.ok moved, cx)
  | .useItem step =>
    match board.itemUse step with
    | .error cause => (.error (.misnamed index cause), cx)
    | .ok use =>
      let (moved, cx) := board.useItem report cx step use
      (.ok moved, cx)
  | .useMove step =>
    match board.pair step.user step.target with
    | .error cause => (.error (.misnamed index cause), cx)
    | .ok pair =>
      let (moved, cx) := board.useMove report cx step pair
      (.ok moved, cx)
  | .specialProcess call =>
    let (moved, cx) := board.specialProcess report cx call
    (.ok moved, cx)
  | .menu step =>
    let (moved, cx) := board.menu report cx step
    (moved.mapError .halted, cx)

/-- The line that tells the log that a step is over. -/
def stepLine (report : StepReport) : LogRecord :=
  SimulatedHost.said .debug
    s!"step {report.index} ({report.kind}) handled={report.handled}"

/-- Replays steps from an index on: the reports so far, the board after them, and why it stopped if it did. -/
def play : Nat → List Step → Board σ → Context σ →
    (List StepReport × Board σ × Option Stop) × Context σ
  | _, [], board, cx => (([], board, none), cx)
  | index, first :: rest, board, cx =>
    match board.step index first cx with
    | (.error stop, _) => (([], board, some stop), cx)
    | (.ok moved, cx) =>
      let played := play (index + 1) rest moved.2 (cx.say (stepLine moved.1))
      ((moved.1 :: played.1.1, played.1.2), played.2)

end

/-- The session of a board in a context. -/
def session (board : Board SimulatedHost) (context : Context SimulatedHost) : Session where
  engine := board.engine
  context := context
  entities := board.entities
  items := board.items
  routine := board.routine

/-- What a step reports, with the session that it leaves. -/
def settled {ε : Type}
    (moved : Except ε (StepReport × Board SimulatedHost) × Context SimulatedHost) :
    Except ε (StepReport × Session) :=
  moved.1.map fun (report, board) => (report, board.session moved.2)

section

variable (report : StepReport) (board : Board SimulatedHost) (cx : Context SimulatedHost)

omit report in
/-- An opcode is answered on the board as in the session. -/
theorem answer_session (step : OpcodeStep) :
    answerOpcode step (board.session cx) =
      ((board.answer cx step).1.1, (board.answer cx step).1.2, (board.answer cx step).2) := by
  unfold answerOpcode answer
  -- The two go apart where the operand count is looked at.
  generalize counts : board.engine.opcodeParameterCount step.opcode cx = counted
  have same : (board.session cx).engine.opcodeParameterCount step.opcode
    (board.session cx).context = counted := counts
  rw [same]
  rcases counted with ⟨error | _ | count, cx⟩ <;> rfl

/-- So it is replayed. -/
theorem opcode_session (step : OpcodeStep) :
    runOpcode step report (board.session cx) =
      ((board.opcode report cx step).1.1,
        (board.opcode report cx step).1.2.session (board.opcode report cx step).2) := by
  rw [runOpcode, answer_session]
  rfl

/-- So is a move. -/
theorem useMove_session (step : MoveStep) (pair : Entity × Entity) :
    runMove step report pair (board.session cx) =
      ((board.useMove report cx step pair).1.1,
        (board.useMove report cx step pair).1.2.session (board.useMove report cx step pair).2) := by
  -- The two resolve the same move, and then look at what became of it.
  unfold runMove Struck.check strike useMove check
  dsimp only [session]
  generalize board.engine.moveEffect cx _ = resolved
  obtain ⟨handled, use, engine, cx⟩ := resolved
  -- They go apart again where a hit is what has the ability checked.
  dsimp only
  generalize step.landed handled use = landed
  obtain ⟨hit, target⟩ := landed
  cases hit <;> rfl

/-- So is the polling of a menu. -/
theorem pollMenu_session (step : MenuVisit) (frames : Nat) :
    Replay.pollMenu step report (board.session cx) frames =
      settled (board.pollMenu step report frames cx) := by
  -- After every poll, the session is that of the board which the poll left.
  induction frames generalizing board cx with
  | zero => rfl
  | succ frames ih =>
    unfold Replay.pollMenu pollMenu
    dsimp only [session]
    generalize board.engine.stepMenu step.menu cx = polled
    obtain ⟨answer, engine, cx⟩ := polled
    cases answer with
    | error halt => rfl
    | ok polled =>
      dsimp only [afterPoll]
      split
      · rfl
      · exact ih { board with engine } { cx with host := cx.host.advanceFrame }

/-- So is the whole visit of a menu. -/
theorem menu_session (step : MenuVisit) :
    runMenu step report (board.session cx) = settled (board.menu report cx step) := by
  -- Both queue the input on the same host before they start the menu.
  unfold runMenu menu
  dsimp only [session]
  change (match board.engine.startMenu step.menu
      { cx with host := cx.host.queueInput step.input } with | _ => _) = _
  generalize board.engine.startMenu step.menu _ = started
  obtain ⟨answer, engine, cx⟩ := started
  rcases answer with halt | error | _
  · rfl
  · rfl
  · exact pollMenu_session report { board with engine } cx step step.frameLimit

/-- So is any step. -/
theorem step_session (index : Nat) (step : Step) :
    runStep index step (board.session cx) = settled (board.step index step cx) := by
  cases step with
  | opcode step => exact congrArg Except.ok (opcode_session _ board cx step)
  | useItem step =>
    simp only [runStep, Board.step]
    -- The items and the entities are the same, whatever the context is.
    have same : (board.session cx).itemUse step = board.itemUse step := rfl
    rw [same]
    cases board.itemUse step <;> rfl
  | useMove step =>
    simp only [runStep, Board.step]
    have same : (board.session cx).pair step.user step.target =
      board.pair step.user step.target := rfl
    rw [same]
    cases board.pair step.user step.target with
    | error cause => rfl
    | ok pair => exact congrArg Except.ok (useMove_session _ board cx step pair)
  | specialProcess call => rfl
  | menu step =>
    simp only [runStep, Board.step, menu_session, settled]
    cases (board.menu { index, kind := (Step.menu step).kind } cx step).1 <;> rfl

/-- A replay is one of the boards that sessions have. -/
theorem play_session (index : Nat) (steps : List Step) :
    runSteps index steps (board.session cx) =
      let played := board.play index steps cx
      (played.1.1, played.1.2.1.session played.2, played.1.2.2) := by
  -- A step that is stopped leaves board and context as they were before it.
  induction steps generalizing index board cx with
  | nil => rfl
  | cons first rest ih =>
    simp only [runSteps, play, step_session, settled]
    generalize board.step index first cx = moved
    obtain ⟨_ | ⟨report, board⟩, cx⟩ := moved
    · rfl
    · simp only [Except.map]
      have later := ih board (cx.say (stepLine report)) (index + 1)
      exact congrArg
        (fun ran : List StepReport × Session × Option Stop => (report :: ran.1, ran.2)) later

end

end Board

end DungeonHooks.Replay
