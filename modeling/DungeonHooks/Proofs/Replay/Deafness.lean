import DungeonHooks.Proofs.Engine.Program
import DungeonHooks.Proofs.Host.Deaf
import DungeonHooks.Proofs.Menu.Returns
import DungeonHooks.Proofs.Replay.Steps

/-! Replays are deaf: the host alone decides how they go, and what is told on the way. -/

namespace DungeonHooks

/-- The handlers of the engine only talk to their host, and its menus return as well. -/
structure Engine.Behaved {σ : Type} [Host σ] (engine : Engine σ) : Prop where
  talks : engine.Talks fun _ => True
  menus : engine.menus.Talks fun _ => True
  returns : engine.menus.Returns

namespace Engine

variable {σ : Type} [Host σ] {engine : Engine σ}

/-- An engine of the program is behaved, whatever scripts it is given. -/
theorem program_behaved (settings : Settings) (scripts : List Script) :
    (Engine.new settings .builtin (scripts.map Script.resolver) : Engine σ).Behaved where
  talks := Engine.program_talks (fun _ _ => trivial) settings scripts
  menus := MenuMachine.builtin_talks settings.firstCustomMenu
  returns := MenuMachine.builtin_returns settings.firstCustomMenu

namespace Behaved

variable (behaved : engine.Behaved)

include behaved

/-- A behaved engine still is after an item use. -/
theorem itemEffect (thrown : Bool) (cx : Context σ) (use : ItemUse) :
    (engine.itemEffect thrown cx use).2.2.1.Behaved :=
  -- Only the chain of resolvers is another one.
  ⟨behaved.talks.itemEffect thrown cx use, behaved.menus, behaved.returns⟩

/-- It still is after a move use. -/
theorem moveEffect (cx : Context σ) (use : MoveUse) :
    (engine.moveEffect cx use).2.2.1.Behaved :=
  ⟨behaved.talks.moveEffect cx use, behaved.menus, behaved.returns⟩

/-- It still is after a special process. -/
theorem handleSpecialProcess (cx : Context σ) (call : ProcessCall) :
    (engine.handleSpecialProcess cx call).2.1.Behaved := by
  -- The process may change the chain, but not the menus.
  have menus := engine.handleSpecialProcess_menus cx call
  refine ⟨behaved.talks.handleSpecialProcess cx call, ?_, ?_⟩
  · exact menus ▸ behaved.menus
  · exact menus ▸ behaved.returns

/-- It still is with its menus in another state. -/
theorem withMenus {machine : MenuMachine σ} (table : machine.table = engine.menus.table) :
    Behaved { engine with menus := machine } := by
  -- What is known of the menus is known of the table that holds them.
  refine ⟨⟨behaved.talks.effects, behaved.talks.instructions⟩, ?_, ?_⟩
  · exact fun descriptor member => behaved.menus descriptor (table ▸ member)
  · exact fun descriptor member => behaved.returns descriptor (table ▸ member)

end Behaved

end Engine

namespace Replay

namespace Board

/-- The board that is left, if one is, has a behaved engine. -/
def Leaves {σ ε : Type} [Host σ] (result : Except ε (StepReport × Board σ)) : Prop :=
  ∀ moved, result = .ok moved → moved.2.engine.Behaved

/-- An error leaves no board. -/
theorem leaves_error {σ ε : Type} [Host σ] (cause : ε) :
    Leaves (.error cause : Except ε (StepReport × Board σ)) := by
  intro moved same
  cases same

/-- A board is left as it is. -/
theorem leaves_ok {σ ε : Type} [Host σ] {report : StepReport} {board : Board σ}
    (behaved : board.engine.Behaved) : Leaves (.ok (report, board) : Except ε _) := by
  rintro _ ⟨rfl⟩
  exact behaved

/-- The board stays the same under an error of another name. -/
theorem Leaves.mapError {σ ε κ : Type} [Host σ] {result : Except ε (StepReport × Board σ)}
    (leaves : Leaves result) (rename : ε → κ) : Leaves (result.mapError rename) := by
  -- The error alone is renamed, so what is left was left before.
  intro moved same
  cases result with
  | error cause => cases same
  | ok value => exact leaves moved (congrArg Except.ok (Except.ok.inj same))

variable {σ : Type} [Host σ] {lines : LogRecord → Prop} (voiced : HostSays σ lines) (board : Board σ)
  (behaved : board.engine.Behaved) (report : StepReport)

include voiced behaved

/-- Replaying an opcode is deaf. -/
theorem opcode_deafly (step : OpcodeStep) :
    Deaf lines (fun moved => moved.2.engine.Behaved) fun cx => board.opcode report cx step :=
  (board.opcode_spoken (fun _ _ _ => trivial) behaved.talks report step).deaf voiced fun _ => behaved

/-- Replaying the use of an item is deaf. -/
theorem useItem_deafly (step : ItemStep) (use : ItemUse) :
    Deaf lines (fun moved => moved.2.engine.Behaved) fun cx => board.useItem report cx step use :=
  (board.useItem_spoken (fun _ _ _ => trivial) behaved.talks report step use).deaf voiced fun cx =>
    behaved.itemEffect step.thrown cx use

/-- Replaying a move is deaf. -/
theorem useMove_deafly (step : MoveStep) (pair : Entity × Entity) :
    Deaf lines (fun moved => moved.2.engine.Behaved) fun cx => board.useMove report cx step pair :=
  (board.useMove_spoken (fun _ _ _ => trivial) behaved.talks report step pair).deaf voiced fun cx =>
    behaved.moveEffect cx _

/-- Replaying a special process is deaf. -/
theorem specialProcess_deafly (call : ProcessCall) :
    Deaf lines (fun moved => moved.2.engine.Behaved) fun cx =>
      board.specialProcess report cx call :=
  (board.specialProcess_spoken behaved.talks report (fun _ _ => trivial) call).deaf voiced fun cx =>
    behaved.handleSpecialProcess cx call

variable [Played σ]

omit voiced report in
/-- What follows on a poll is deaf, if all that is next is. -/
theorem afterPoll_deafly (finished : Int32 → StepReport)
    {next : Board σ → Context σ → Except Halt (StepReport × Board σ) × Context σ}
    (goesOn : ∀ board : Board σ, board.engine.Behaved → Deaf lines Leaves (next board))
    (answer : Except Halt MenuStep) : Deaf lines Leaves (afterPoll finished next answer board) := by
  unfold afterPoll
  cases answer with
  | error halt => exact .still (leaves_error halt)
  | ok polled =>
    dsimp only
    -- Only a menu that goes on lets the player's input in.
    split
    · exact .still (leaves_ok behaved)
    · exact (Deaf.onHost Played.advanceFrame).andThen fun _ _ => goesOn board behaved

/-- Polling a menu is deaf, frame by frame. -/
theorem pollMenu_deafly (step : MenuVisit) (frames : Nat) :
    Deaf lines Leaves (pollMenu step report frames board) := by
  -- Each poll leaves the menus in another state, and the rest is polled in that one.
  induction frames generalizing board with
  | zero => exact .still (leaves_ok behaved)
  | succ left ih =>
    have spoken := (MenuMachine.step_spoken (fun _ _ => trivial) behaved.menus behaved.returns
      step.menu).map fun polled => (polled.1, { board.engine with menus := polled.2 })
    have polls : Deaf lines (fun polled : Except Halt MenuStep × Engine σ => polled.2.Behaved) _ :=
      spoken.deaf voiced fun cx =>
        behaved.withMenus (MenuMachine.step_table board.engine.menus step.menu cx)
    exact polls.andThen fun polled behaved =>
      afterPoll_deafly { board with engine := polled.2 } behaved
        (report.finished · (step.frameLimit - left)) ih polled.1

/-- What follows on the start of a menu is deaf. -/
theorem afterStart_deafly (step : MenuVisit) (answer : Except Halt (Except OutOfRange Unit)) :
    Deaf lines Leaves (afterStart step report answer board) := by
  -- A halt and a menu that does not exist are the end, and else the menu is polled.
  rcases answer with halt | error | _
  · exact .still (leaves_error halt)
  · exact .still (leaves_ok behaved)
  · exact pollMenu_deafly voiced board behaved report step step.frameLimit

/-- A whole visit of a menu is deaf. -/
theorem menu_deafly (step : MenuVisit) : Deaf lines Leaves fun cx => board.menu report cx step := by
  have spoken := (MenuMachine.start_spoken (fun _ _ => trivial) behaved.menus behaved.returns
    step.menu).map fun started => (started.1, { board.engine with menus := started.2 })
  have starts : Deaf lines
      (fun started : Except Halt (Except OutOfRange Unit) × Engine σ => started.2.Behaved) _ :=
    spoken.deaf voiced fun cx =>
      behaved.withMenus (MenuMachine.start_table board.engine.menus step.menu cx)
  -- The input is queued before the menu is started.
  exact (Deaf.onHost (Played.queueInput · step.input)).andThen fun _ _ =>
    starts.andThen fun started behaved =>
      afterStart_deafly voiced { board with engine := started.2 } behaved report step started.1

omit report in
/-- A step is deaf, unless it names something wrong, which is not heard either. -/
theorem step_deafly (index : Nat) (step : Step) :
    Deaf lines Leaves fun cx => board.step index step cx := by
  have goesOn {act : Context σ → Moved σ} (deaf : Deaf lines (·.2.engine.Behaved) act) :
      Deaf lines Leaves fun cx => ((.ok (act cx).1 : Except Stop _), (act cx).2) :=
    deaf.map Except.ok fun _ behaved => leaves_ok behaved
  cases step with
  | opcode step => exact goesOn (board.opcode_deafly voiced behaved _ step)
  | useItem step =>
    unfold Board.step
    dsimp only
    -- What the step names is looked up on the board, without the context.
    split
    · exact .still (leaves_error _)
    · exact goesOn (board.useItem_deafly voiced behaved _ step _)
  | useMove step =>
    unfold Board.step
    dsimp only
    split
    · exact .still (leaves_error _)
    · exact goesOn (board.useMove_deafly voiced behaved _ step _)
  | specialProcess call => exact goesOn (board.specialProcess_deafly voiced behaved _ call)
  | menu step =>
    exact (board.menu_deafly voiced behaved _ step).map (Except.mapError Stop.halted) fun _ leaves =>
      leaves.mapError Stop.halted

omit report in
/-- So is a whole replay. -/
theorem play_deafly (ends : ∀ report, lines (stepLine report)) (index : Nat) (steps : List Step) :
    Deaf lines (fun _ => True) (board.play index steps) := by
  -- The board that a step leaves is behaved again, so that the rest is deaf on it.
  induction steps generalizing index board with
  | nil => exact .still trivial
  | cons first rest ih =>
    have goesOn (moved : StepReport × Board σ) (behaved : moved.2.engine.Behaved) :
        Deaf lines (fun _ => True) fun cx =>
          let played := moved.2.play (index + 1) rest (cx.say (stepLine moved.1))
          ((moved.1 :: played.1.1, played.1.2), played.2) :=
      (Deaf.say (ends moved.1)).andThen fun _ _ =>
        (ih moved.2 behaved (index + 1)).map (fun left => (moved.1 :: left.1, left.2))
          fun _ _ => trivial
    refine ((board.step_deafly voiced behaved index first).attempt
      (fun stop => ([], board, some stop)) (fun _ => trivial) goesOn).of_eq fun cx => ?_
    conv => lhs; unfold play
    generalize board.step index first cx = left
    obtain ⟨_ | _, _⟩ := left <;> rfl

end Board

end Replay

end DungeonHooks
