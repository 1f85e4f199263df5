import DungeonHooks.Proofs.Engine.Talks
import DungeonHooks.Proofs.Menu.Session
import DungeonHooks.Proofs.Replay.Board
import DungeonHooks.Proofs.Replay.History

/-! A step that is no menu reaches the host only through what handlers say to it. -/

namespace DungeonHooks

/-- The ability check is a talk: the message, the draw, the boost, and what the journal keeps of it. -/
theorem checkBeastBoost_spoken {σ : Type} [Host σ] {allowed : Request → Prop}
    (ordinary : Ordinary allowed) (user target : Entity) :
    Spoken allowed fun cx : Context σ =>
      let (boosted, user, cx) := checkBeastBoost cx user target
      ((boosted, user), cx) := by
  unfold checkBeastBoost
  cases user.monster with
  | none => exact .still (false, user)
  | some monster =>
    dsimp only
    split
    -- Without the ability, or with the target still there, nothing is said.
    · exact .still (false, user)
    · have message := Spoken.request (σ := σ) (.logMessage user beastBoostMessage)
        (ordinary _ rfl rfl)
      have draw := Spoken.request (σ := σ) (.randRange 0 (Int32.ofNat monster.tiedStats.length))
        (ordinary _ rfl rfl)
      have boost (stat : Stat) : Spoken allowed fun cx : Context σ => cx.call (stat.boost user) := by
        cases stat
        case attack => exact .request (.boostOffensiveStat user .physical 1) (ordinary _ rfl rfl)
        case defense => exact .request (.boostDefensiveStat user .physical 1) (ordinary _ rfl rfl)
        case specialAttack =>
          exact .request (.boostOffensiveStat user .special 1) (ordinary _ rfl rfl)
        case specialDefense =>
          exact .request (.boostDefensiveStat user .special 1) (ordinary _ rfl rfl)
      let text (stat : Stat) :=
        s!"Beast Boost raised {stat.describe} ({monster.tiedStats.length} tied)"
      have told (stat : Stat) (raised : Entity) :
          Spoken allowed fun cx : Context σ => ((true, raised), cx.info .effects (text stat)) :=
        (Spoken.record .effects .info (text stat) (ordinary _ rfl rfl)).map fun _ => (true, raised)
      have raises (drawn : Int32) := (boost (Stat.select monster.tiedStats drawn)).andThen
        (told (Stat.select monster.tiedStats drawn))
      exact (message.andThen fun _ => draw).andThen raises

namespace Replay

/-- What a step reports and how it leaves the session, with the context apart; the first one stands in for it. -/
def apart (first : Context SimulatedHost) (result : StepReport × Session) :
    (StepReport × Session) × Context SimulatedHost :=
  ((result.1, { result.2 with context := first }), result.2.context)

section

variable {σ : Type} [Host σ] {allowed : Request → Prop}

/-- Having an opcode answered is talking. -/
theorem Board.answer_spoken (board : Board σ) (talks : board.engine.Talks allowed)
    (journals : ∀ severity message, allowed (.record .instructions severity message))
    (step : OpcodeStep) : Spoken allowed fun cx => board.answer cx step := by
  have counts : Spoken allowed (board.engine.opcodeParameterCount step.opcode) :=
    Engine.opcodeParameterCount_spoken journals step.opcode
  -- Only a known operand count is followed by the instruction itself.
  have answers (counted : Except OutOfRange (Option UInt8)) :
      Spoken allowed fun cx => board.answerCounted cx step counted := by
    rcases counted with error | _ | count
    · exact .still (Except.error error, board.routine)
    · exact .still (Except.ok none, board.routine)
    · exact (Engine.handleOpcode_spoken journals talks _ _ _).map fun (route, routine) =>
        (route.map (OpcodeAnswer.ofRoute count), routine)
  exact counts.andThen answers

section

variable (ordinary : Ordinary allowed)

include ordinary

/-- Checking the ability of a user is talking. -/
theorem Board.check_spoken (hit : Bool) (user target : Entity) :
    Spoken allowed fun cx : Context σ => Board.check hit user target cx := by
  -- Without a hit, the ability is not checked.
  cases hit with
  | false => exact .still (false, user)
  | true => exact checkBeastBoost_spoken ordinary user target

namespace Board

variable (board : Board σ) (talks : board.engine.Talks allowed) (report : StepReport)

include talks

/-- Replaying an opcode is talking. -/
theorem opcode_spoken (step : OpcodeStep) :
    Spoken allowed fun cx => board.opcode report cx step :=
  (board.answer_spoken talks (fun _ => ordinary.records (.inr nofun)) step).map
    fun (answer, routine) => (step.reported report answer, { board with routine })

/-- Replaying the use of an item is talking. -/
theorem useItem_spoken (step : ItemStep) (use : ItemUse) :
    Spoken allowed fun cx => board.useItem report cx step use :=
  -- The report tells whether the item was left to the host.
  (Engine.itemEffect_spoken (fun _ => ordinary.records (.inr nofun)) talks step.thrown use).map
    fun (handled, use, engine) =>
      let detail := if handled then none else some s!"item {use.item.id} left to host"
      let items := board.items.insert step.item use.item
      ({ report with handled, detail },
        { board with engine, items }.putPair step.user step.target (use.user, use.target))

/-- Replaying a move is talking. -/
theorem useMove_spoken (step : MoveStep) (pair : Entity × Entity) :
    Spoken allowed fun cx => board.useMove report cx step pair := by
  have resolves := Engine.moveEffect_spoken (fun _ => ordinary.records (.inr nofun)) talks
    { input := { moveId := step.moveId, itemId := step.itemId }
      user := pair.1
      target := pair.2
      used := usedMove step.moveId pair.1 }
  -- Whether the move was handled decides who deals the damage, and the check is made after it.
  have checks (left : Bool × MoveUse × Engine σ) :=
    (check_spoken (σ := σ) ordinary (step.landed left.1 left.2.1).1
      (storeMove (moveSlot step.moveId pair.1) left.2.1.used left.2.1.user)
      (step.landed left.1 left.2.1).2).map fun checked =>
        ({ report with handled := left.1, detail := step.detail left.1 checked.1 },
          { board with engine := left.2.2 }.putPair step.user step.target
            (checked.2, (step.landed left.1 left.2.1).2))
  exact resolves.andThen checks

omit ordinary in
/-- Replaying a special process is talking; an unclaimed one is warned about. -/
theorem specialProcess_spoken (wide : Wide allowed) (call : ProcessCall) :
    Spoken allowed fun cx => board.specialProcess report cx call :=
  (Engine.handleSpecialProcess_spoken (fun _ _ => wide _ rfl) talks call).map fun left =>
    (report.processed call left.1, { board with engine := left.2 })

end Board

end

end

section

variable {allowed : Request → Prop}

/-- The board of a session. -/
def Session.board (session : Session) : Board SimulatedHost where
  engine := session.engine
  entities := session.entities
  items := session.items
  routine := session.routine

/-- Having an opcode answered in a session is talking. -/
theorem answerOpcode_spoken {session : Session} (talks : session.engine.Talks allowed)
    (step : OpcodeStep)
    (journals : ∀ severity message, allowed (.record .instructions severity message)) :
    Spoken allowed fun cx =>
      let (answer, routine, cx) := answerOpcode step { session with context := cx }
      ((answer, routine), cx) :=
  (session.board.answer_spoken talks journals step).of_eq fun cx => by
    have same := session.board.answer_session cx step
    rw [show answerOpcode step { session with context := cx } = _ from same]

/-- Checking the ability of the user of a move is talking. -/
theorem check_spoken (ordinary : Ordinary allowed) (struck : Struck) :
    Spoken allowed fun cx =>
      let checked := Struck.check { struck with context := cx }
      ((checked.1, checked.2.1), checked.2.2) :=
  (Board.check_spoken ordinary struck.hit struck.user struck.target).of_eq fun cx => by
    unfold Struck.check Board.check
    cases struck.hit <;> rfl

/-- What is talking on a board is talking in a session of the board. -/
theorem Board.spoken_session {act : Context SimulatedHost → Board.Moved SimulatedHost}
    (spoken : Spoken allowed act) {run : Context SimulatedHost → StepReport × Session}
    (first : Context SimulatedHost)
    (same : ∀ cx, run cx = ((act cx).1.1, (act cx).1.2.session (act cx).2)) :
    Spoken allowed fun cx => apart first (run cx) :=
  (spoken.map fun moved => (moved.1, moved.2.session first)).of_eq fun cx => by
    rw [same]
    rfl

end

/-- The step is a menu. -/
def Step.isMenu : Step → Bool
  | .menu _ => true
  | _ => false

/-- Replaying a step that is no menu is talking, unless it names something wrong, whatever the host. -/
theorem runStep_spoken {allowed : Request → Prop} (wide : Wide allowed) {session : Session}
    (talks : session.engine.Talks allowed) (index : Nat) {step : Step}
    (other : step.isMenu = false) :
    (∃ stop, ∀ cx, runStep index step { session with context := cx } = .error stop) ∨
      ∃ act : Context SimulatedHost → StepReport × Session,
        (∀ cx, runStep index step { session with context := cx } = .ok (act cx)) ∧
          Spoken allowed fun cx => apart session.context (act cx) := by
  cases step with
  | opcode step =>
    exact .inr ⟨_, fun _ => rfl, Board.spoken_session
      (session.board.opcode_spoken wide.ordinary talks _ step) _
      (session.board.opcode_session _ · step)⟩
  | useItem step =>
    -- Names are looked up in the session, without the host.
    cases found : session.itemUse step with
    | error cause =>
      exact .inl ⟨.misnamed index cause, fun cx => by
        simp only [runStep,
          show Session.itemUse { session with context := cx } step = _ from found]⟩
    | ok use =>
      exact .inr ⟨_, fun cx => by
        simp only [runStep, show Session.itemUse { session with context := cx } step = _ from found]
        rfl, Board.spoken_session
          (session.board.useItem_spoken wide.ordinary talks _ step use) _ fun _ => rfl⟩
  | useMove step =>
    cases found : session.pair step.user step.target with
    | error cause =>
      exact .inl ⟨.misnamed index cause, fun cx => by
        simp only [runStep, show Session.pair { session with context := cx } _ _ = _ from found]⟩
    | ok pair =>
      exact .inr ⟨_, fun cx => by
        simp only [runStep, show Session.pair { session with context := cx } _ _ = _ from found]
        rfl, Board.spoken_session
          (session.board.useMove_spoken wide.ordinary talks _ step pair) _
          (session.board.useMove_session _ · step pair)⟩
  | specialProcess call =>
    exact .inr ⟨_, fun _ => rfl, Board.spoken_session
      (session.board.specialProcess_spoken talks _ wide call) _ fun _ => rfl⟩
  | menu step => cases other

/-- What every allowed request keeps to is kept to by a step that is no menu. -/
theorem runStep_keeps {allowed : Request → Prop} (wide : Wide allowed)
    {kept : SimulatedHost → SimulatedHost → Prop} (keeps : Kept allowed kept) {index : Nat}
    {step : Step} {session : Session} {result : StepReport × Session} (other : step.isMenu = false)
    (talks : session.engine.Talks allowed) (ran : runStep index step session = .ok result) :
    kept session.context.host result.2.context.host := by
  -- Handlers reach the host by requests only.
  rcases runStep_spoken wide talks index other with ⟨stop, stops⟩ | ⟨act, runs, spoken⟩
  · rw [show runStep index step session = _ from stops session.context] at ran
    contradiction
  · obtain rfl := Except.ok.inj ((runs session.context).symm.trans ran)
    exact spoken.keeps keeps session.context

/-- The engine has the same menus, and its handlers still talk. -/
structure Continues (allowed : Request → Prop) (before after : Engine SimulatedHost) : Prop where
  menus : after.menus = before.menus
  talks : before.Talks allowed → after.Talks allowed

/-- A step that is no menu leaves the menus alone, and handlers that talk still do after it. -/
theorem runStep_continues {allowed : Request → Prop} {session after : Session} {index : Nat}
    {step : Step} {report : StepReport} (other : step.isMenu = false)
    (ran : runStep index step session = .ok (report, after)) :
    Continues allowed session.engine after.engine := by
  cases step with
  | opcode step =>
    -- Opcodes change nothing of the engine.
    cases ran
    exact ⟨rfl, id⟩
  | useItem step =>
    obtain ⟨use, -, left⟩ := runStep_useItem ran
    cases left
    exact ⟨rfl, fun talks => talks.itemEffect ..⟩
  | useMove step =>
    obtain ⟨pair, -, left⟩ := runStep_useMove ran
    cases left
    exact ⟨rfl, fun talks => talks.moveEffect ..⟩
  | specialProcess call =>
    cases ran
    exact ⟨session.engine.handleSpecialProcess_menus session.context call,
      fun talks => talks.handleSpecialProcess _ call⟩
  | menu step => cases other

/-- The engine with its menus in another state. -/
def inState (engine : Engine SimulatedHost) (state : MenuState) : Engine SimulatedHost :=
  { engine with menus := { engine.menus with state } }

section

variable {step : MenuVisit} {session : Session}

/-- The session after a poll of a menu. -/
def Session.polled (session : Session) (menu : Int32) : Session :=
  let reply := session.engine.menus.step menu session.context
  { session with
    engine := { session.engine with menus := reply.machine }
    context := reply.context }

/-- A machine with the same menus is the old one in another state. -/
theorem withMenus_eq_inState {engine : Engine SimulatedHost} {machine : MenuMachine SimulatedHost}
    (table : machine.table = engine.menus.table) :
    { engine with menus := machine } = inState engine machine.state := by
  -- Machines with the same menus differ in their states only.
  obtain ⟨records, state⟩ := machine
  obtain rfl := table
  rfl

/-- The session after a frame of the player's input. -/
def Session.nextFrame (session : Session) : Session :=
  { session with context.host := session.context.host.advanceFrame }

/-- A menu is polled, and polled again after a frame of input unless it is over. -/
theorem pollMenu_succ {answer : MenuStep} (report : StepReport) (left : Nat)
    (polls : (session.engine.menus.step step.menu session.context).answer = .ok answer) :
    pollMenu step report session (left + 1) =
      if answer.finished then
        .ok (report.finished answer.returnValue (step.frameLimit - left),
          session.polled step.menu)
      else pollMenu step report (session.polled step.menu).nextFrame left := by
  -- The poll is the only call that may halt, and it does not.
  simp only [pollMenu, Engine.stepMenu, Engine.menuCall, polls]
  rfl

/-- A halt of a poll is one of the whole replay. -/
theorem pollMenu_halted {halt : Halt} (report : StepReport) (left : Nat)
    (halts : (session.engine.menus.step step.menu session.context).answer = .error halt) :
    pollMenu step report session (left + 1) = .error halt := by
  simp only [pollMenu, Engine.stepMenu, Engine.menuCall, halts]

/-- Polling changes no more of the engine than the state of its menus. -/
theorem pollMenu_engine {report : StepReport} {frames : Nat} {result : StepReport × Session}
    (ran : pollMenu step report session frames = .ok result) :
    ∃ state, result.2.engine = inState session.engine state := by
  -- Each poll changes the state again, and the last state is what remains.
  induction frames generalizing session with
  | zero =>
    obtain rfl := Except.ok.inj ran
    exact ⟨session.engine.menus.state, rfl⟩
  | succ frames ih =>
    cases answer : (session.engine.menus.step step.menu session.context).answer with
    | error halt =>
      rw [pollMenu_halted report frames answer] at ran
      contradiction
    | ok polled =>
      have engine := withMenus_eq_inState
        (MenuMachine.step_table session.engine.menus step.menu session.context)
      rw [pollMenu_succ report frames answer] at ran
      split at ran
      · obtain rfl := Except.ok.inj ran
        exact ⟨_, engine⟩
      · -- The later polls go on from the engine that the first one left.
        obtain ⟨last, later⟩ := ih ran
        rw [show (session.polled step.menu).nextFrame.engine = _ from engine] at later
        exact ⟨last, later⟩

/-- What the start of a menu answers, with the player's input queued before it. -/
def Session.starting (session : Session) (step : MenuVisit) :
    MenuReply SimulatedHost (Except OutOfRange Unit) :=
  session.engine.menus.start step.menu
    { session.context with host := session.context.host.queueInput step.input }

/-- The session after a menu was started. -/
def Session.started (session : Session) (step : MenuVisit) : Session :=
  { session with
    engine := { session.engine with menus := (session.starting step).machine }
    context := (session.starting step).context }

/-- A menu step goes by what the start of the menu answers. -/
theorem runMenu_eq (step : MenuVisit) (report : StepReport) (session : Session) :
    runMenu step report session = match (session.starting step).answer with
      | .error halt => .error halt
      | .ok (.error error) =>
        .ok ({ report with error := some error.message }, session.started step)
      | .ok (.ok ()) => pollMenu step report (session.started step) step.frameLimit :=
  -- The session that was started is the one that the call leaves.
  rfl

/-- A menu step is over at once if the menu is unknown, and else polls what it started. -/
theorem runMenu_cases {report : StepReport} {result : StepReport × Session}
    (ran : runMenu step report session = .ok result) :
    (∃ error, (session.starting step).answer = .ok (.error error) ∧
        result = ({ report with error := some error.message }, session.started step)) ∨
      (session.starting step).answer = .ok (.ok ()) ∧
        pollMenu step report (session.started step) step.frameLimit = .ok result := by
  -- A start that halts stops the replay, so it is none of the cases.
  rw [runMenu_eq] at ran
  split at ran
  case h_1 => contradiction
  case h_2 error answer => exact .inl ⟨error, answer, (Except.ok.inj ran).symm⟩
  case h_3 answer => exact .inr ⟨answer, ran⟩

/-- A menu step changes no more of the engine than the state of its menus. -/
theorem runMenu_engine {report : StepReport} {result : StepReport × Session}
    (ran : runMenu step report session = .ok result) :
    ∃ state, result.2.engine = inState session.engine state := by
  -- Starting the menu keeps the table, and so does every poll.
  have engine := withMenus_eq_inState (MenuMachine.start_table session.engine.menus step.menu
    { session.context with host := session.context.host.queueInput step.input })
  rcases runMenu_cases ran with ⟨error, _, rfl⟩ | ⟨_, polled⟩
  · exact ⟨_, engine⟩
  · obtain ⟨last, later⟩ := pollMenu_engine polled
    rw [show (session.started step).engine = _ from engine] at later
    exact ⟨last, later⟩

/-- A step that is a menu runs the menu. -/
theorem runStep_menu {index : Nat} {result : StepReport × Session} :
    runStep index (.menu step) session = .ok result ↔
      runMenu step { index, kind := "menu" } session = .ok result := by
  -- A halt stops the replay under another name, an answer is passed on.
  unfold runStep
  simp only [Step.kind]
  cases halted : runMenu step { index, kind := "menu" } session with
  | error halt => exact iff_of_false nofun nofun
  | ok answer =>
    constructor <;> intro ran <;> exact congrArg _ (Except.ok.inj ran)

end

end Replay

end DungeonHooks
