import DungeonHooks.Proofs.Menu.Session
import DungeonHooks.Proofs.Menu.Watched

/-! Runs of a menu machine: calls in any order, with a host that may move on between them. -/

namespace DungeonHooks

/-- What happens to a machine: a script calls it, or its host moves on meanwhile. -/
inductive MenuEvent (σ : Type) where
  | start (menu : Int32)
  | step (menu : Int32)
  | meanwhile (change : σ → σ)

/-- What comes of an event. -/
inductive MenuAnswer where
  | started
  | refused (error : OutOfRange)
  | polled (step : MenuStep)
  | unasked
  deriving DecidableEq

/-- What a start is answered with. -/
def MenuAnswer.ofStart : Except OutOfRange Unit → MenuAnswer
  | .ok () => .started
  | .error error => .refused error

variable {σ α β : Type}

/-- The event on a watched host, which keeps its runs when it moves on. -/
def MenuEvent.watched : MenuEvent σ → MenuEvent (Watched σ)
  | .start menu => .start menu
  | .step menu => .step menu
  | .meanwhile change => .meanwhile fun watched => { watched with host := change watched.host }

/-- The reply with another answer in the place of the one it has. -/
def MenuReply.map (convert : α → β) (reply : MenuReply σ α) : MenuReply σ β :=
  { answer := reply.answer.map convert, machine := reply.machine, context := reply.context }

/-- What an event does to a machine. -/
def MenuMachine.act (machine : MenuMachine σ) (event : MenuEvent σ) (cx : Context σ) :
    MenuReply σ MenuAnswer :=
  match event with
  | .start menu => (machine.start menu cx).map .ofStart
  | .step menu => (machine.step menu cx).map .polled
  | .meanwhile change =>
    { answer := .ok .unasked, machine, context := { cx with host := change cx.host } }

/-- An event, with the machine and the context that it comes upon. -/
structure MenuTurn (σ : Type) where
  machine : MenuMachine σ
  context : Context σ
  event : MenuEvent σ

namespace MenuTurn

/-- What comes of the turn. -/
def reply (turn : MenuTurn σ) : MenuReply σ MenuAnswer :=
  turn.machine.act turn.event turn.context

/-- The turn on a watched host on which no callback ran yet. -/
def watched (turn : MenuTurn σ) : MenuTurn (Watched σ) where
  machine := turn.machine.watched
  context := turn.context.watched []
  event := turn.event.watched

/-- The callbacks that run in the turn. -/
def ran (turn : MenuTurn σ) : List CallbackRun :=
  -- Read off a host that keeps them, so that nothing about the machine decides what ran.
  turn.watched.reply.context.host.runs

/-- The id of the menu that the turn starts, if it does. -/
def opens? (turn : MenuTurn σ) : Option Int32 :=
  match turn.event with
  | .start menu => if (turn.machine.descriptor? menu).isSome then some menu else none
  | _ => none

/-- Whether a session ends in the turn. -/
def ends (turn : MenuTurn σ) : Bool :=
  turn.ran.any fun run => run.result = .closed (.ok ())

/-- Whether the turn is a call for a menu that is unknown, or a poll of one that is not running. -/
def rejected (turn : MenuTurn σ) : Bool :=
  match turn.event with
  | .start menu => (turn.machine.descriptor? menu).isNone
  | .step menu =>
    (turn.machine.descriptor? menu).isNone || turn.machine.state.activeMenu ≠ some menu
  | .meanwhile _ => false

end MenuTurn

/-- A run of a machine: its turns, and what they leave. -/
structure MenuRun (σ : Type) where
  turns : List (MenuTurn σ)
  machine : MenuMachine σ
  context : Context σ

/-- The run that a turn comes before. -/
def MenuRun.after (turn : MenuTurn σ) (run : MenuRun σ) : MenuRun σ :=
  { run with turns := turn :: run.turns }

/-- Lets events happen one after the other. Nothing happens any more once a call has halted. -/
def MenuMachine.run (machine : MenuMachine σ) (cx : Context σ) : List (MenuEvent σ) → MenuRun σ
  | [] => { turns := [], machine, context := cx }
  | event :: events =>
    let turn : MenuTurn σ := { machine, context := cx, event }
    match turn.reply.answer with
    | .error _ =>
      { turns := [turn], machine := turn.reply.machine, context := turn.reply.context }
    | .ok _ => (turn.reply.machine.run turn.reply.context events).after turn

namespace MenuTurn

/-- A turn starts a menu if its event does so and the machine knows the menu. -/
theorem opens?_eq_some_iff {turn : MenuTurn σ} {menu : Int32} :
    turn.opens? = some menu ↔
      turn.event = .start menu ∧ ∃ descriptor, turn.machine.table.lookup menu = .ok descriptor := by
  simp only [HandlerTable.lookup_eq_ok_iff, ← Option.isSome_iff_exists]
  unfold opens? MenuMachine.descriptor?
  -- Polls and the host start no menu.
  cases event : turn.event with
  | start started =>
    simp only [Option.ite_none_right_eq_some, Option.some.injEq, MenuEvent.start.injEq]
    constructor
    · rintro ⟨known, rfl⟩
      exact ⟨rfl, known⟩
    · rintro ⟨rfl, known⟩
      exact ⟨known, rfl⟩
  | step polled => simp
  | meanwhile change => simp

/-- A turn changes the state of the machine, never its menus. -/
theorem reply_table (turn : MenuTurn σ) : turn.reply.machine.table = turn.machine.table := by
  -- The host that moves on meanwhile does not touch the machine at all.
  obtain ⟨machine, cx, event⟩ := turn
  cases event with
  | start menu => exact machine.start_table menu cx
  | step menu => exact machine.step_table menu cx
  | meanwhile change => rfl

/-- What runs in a turn is what its event runs. -/
theorem ran_eq (turn : MenuTurn σ) :
    turn.ran = match turn.event with
      | .start menu => turn.machine.startRuns menu turn.context
      | .step menu => turn.machine.stepRuns menu turn.context
      | .meanwhile _ => [] := by
  obtain ⟨machine, cx, event⟩ := turn
  unfold ran reply watched MenuMachine.act
  -- Both calls do the same on a watched host, and keep what runs behind what ran before.
  cases event with
  | start menu =>
    have same := machine.start_watched menu cx []
    exact congrArg (fun reply => reply.context.host.runs) same
  | step menu =>
    have same := machine.step_watched menu cx []
    exact congrArg (fun reply => reply.context.host.runs) same
  | meanwhile change => rfl

/-- Watching a turn changes nothing of what comes of it. -/
theorem watched_reply (turn : MenuTurn σ) :
    turn.watched.reply = turn.reply.watched turn.ran := by
  rw [ran_eq]
  obtain ⟨machine, cx, event⟩ := turn
  cases event with
  | start menu => exact congrArg (MenuReply.map MenuAnswer.ofStart) (machine.start_watched menu cx [])
  | step menu => exact congrArg (MenuReply.map MenuAnswer.polled) (machine.step_watched menu cx [])
  | meanwhile change => rfl

end MenuTurn

namespace MenuMachine

variable {machine : MenuMachine σ} {cx : Context σ} {event : MenuEvent σ}

/-- After a turn that is answered, the run goes on from what the turn leaves. -/
theorem run_answered {answer : MenuAnswer}
    (answered : (MenuTurn.reply { machine, context := cx, event }).answer = .ok answer)
    (events : List (MenuEvent σ)) :
    let turn : MenuTurn σ := { machine, context := cx, event }
    machine.run cx (event :: events) =
      (turn.reply.machine.run turn.reply.context events).after turn := by
  rw [run]
  simp only [answered]

/-- A turn that halts is the last one. -/
theorem run_halted {halt : Halt}
    (halted : (MenuTurn.reply { machine, context := cx, event }).answer = .error halt)
    (events : List (MenuEvent σ)) :
    let turn : MenuTurn σ := { machine, context := cx, event }
    machine.run cx (event :: events) =
      (turn.reply.machine.run turn.reply.context []).after turn := by
  rw [run]
  simp only [halted]
  rfl

/-- Every event has its turn, unless a callback halts. -/
theorem run_events (events : List (MenuEvent σ)) (machine : MenuMachine σ) (cx : Context σ) :
    (machine.run cx events).turns.map MenuTurn.event = events ∨
      ∃ turn ∈ (machine.run cx events).turns, ∃ halt, turn.reply.answer = .error halt := by
  -- The events go on with the machine and the context that the turn before leaves.
  induction events generalizing machine cx with
  | nil => exact .inl rfl
  | cons event events ih =>
    cases comes : (MenuTurn.reply { machine, context := cx, event }).answer with
    | error halt =>
      rw [run_halted comes]
      exact .inr ⟨_, List.mem_cons_self, halt, comes⟩
    | ok answer =>
      rw [run_answered comes]
      refine (ih _ _).imp (congrArg (event :: ·)) ?_
      rintro ⟨turn, member, halted⟩
      exact ⟨turn, List.mem_cons_of_mem _ member, halted⟩

/-- The first turn of a run is that of its first event. -/
theorem run_first (events : List (MenuEvent σ)) : ∃ later,
    (machine.run cx (event :: events)).turns = { machine, context := cx, event } :: later := by
  cases comes : (MenuTurn.reply { machine, context := cx, event }).answer with
  | error halt => exact ⟨[], by rw [run_halted comes]; rfl⟩
  | ok answer => exact ⟨_, by rw [run_answered comes]; rfl⟩

/-- What happens in a run from some turn on is a run of its own. -/
theorem run_from {events : List (MenuEvent σ)} {past later : List (MenuTurn σ)}
    {turn : MenuTurn σ} (happened : (machine.run cx events).turns = past ++ turn :: later) :
    turn.machine.table = machine.table ∧ ∃ rest,
      turn.machine.run turn.context (turn.event :: rest) =
        { machine.run cx events with turns := turn :: later } := by
  -- Each turn of the past is one that was answered, or there would be none behind it.
  induction past generalizing machine cx events with
  | nil =>
    cases events with
    | nil => contradiction
    | cons event events =>
      obtain ⟨others, first⟩ := @run_first _ machine cx event events
      obtain ⟨rfl, rfl⟩ := List.cons.inj (first.symm.trans happened)
      refine ⟨rfl, events, ?_⟩
      rw [← first]
  | cons earlier past ih =>
    cases events with
    | nil => contradiction
    | cons event events =>
      cases comes : (MenuTurn.reply { machine, context := cx, event }).answer with
      | error halt =>
        -- A run that halts has no turns left.
        rw [run_halted comes] at happened
        have none := (List.cons.inj happened).2
        simp [run] at none
      | ok answer =>
        rw [run_answered comes] at happened ⊢
        obtain ⟨table, rest, again⟩ := ih (List.cons.inj happened).2
        exact ⟨table.trans (MenuTurn.reply_table _), rest, again⟩

end MenuMachine

end DungeonHooks
