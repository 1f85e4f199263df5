import Mathlib.Data.List.Forall2
import DungeonHooks.Host.Scripted
import DungeonHooks.Menu.Builtin
import DungeonHooks.Proofs.Menu.Talks
import DungeonHooks.Proofs.Menu.Turns

/-! A menu that is started sees nothing of what the machine did before, nor of calls that it rejects. -/

namespace DungeonHooks

variable {σ α : Type}

/-- The menus of the machine do not depend on what journal and log hold. -/
abbrev MenuMachine.Deaf (machine : MenuMachine σ) : Prop :=
  machine.Respects Eq

/-- A deaf callback is watched like any other: what it depends on decides what is kept of it. -/
theorem MenuCallback.Respects.watched {callback : MenuCallback σ α}
    (deaf : callback.Respects Eq) (result : Except Halt α → CallbackResult) :
    (callback.watched result).Respects Eq := by
  intro id frame other state host
  obtain ⟨answer, after, left⟩ := deaf id
    { state := frame.state, context := frame.context.unwatched }
    { state := other.state, context := other.context.unwatched } state (congrArg Watched.host host)
  refine ⟨answer, after, ?_⟩
  unfold MenuCallback.watched Context.watched
  dsimp only
  rw [answer, after, left, state, host]

/-- Deaf menus are deaf when they are watched, too. -/
theorem MenuMachine.Deaf.watched {machine : MenuMachine σ} (deaf : machine.Deaf) :
    machine.watched.Deaf := by
  intro descriptor member
  obtain ⟨plain, known, rfl⟩ := List.mem_map.mp member
  have callbacks := deaf plain known
  exact ⟨callbacks.create.watched _, callbacks.update.watched _, callbacks.close.watched _⟩

/-- Replies that agree still do when their answers are converted. -/
theorem MenuReply.Agrees.map {β : Type} {agree : σ → σ → Prop} {reply other : MenuReply σ α}
    (replies : reply.Agrees agree other) (convert : α → β) :
    (reply.map convert).Agrees agree (other.map convert) :=
  ⟨congrArg (Except.map convert) replies.answer, replies.machine, replies.host⟩

namespace MenuTurn

/-- Two turns go alike: the same event has the same answer, and runs and leaves the same. -/
structure Agrees (turn other : MenuTurn σ) : Prop where
  event : turn.event = other.event
  answer : turn.reply.answer = other.reply.answer
  ran : turn.ran = other.ran
  state : turn.reply.machine.state = other.reply.machine.state
  host : turn.reply.context.host = other.reply.context.host

/-- Nothing runs in the turn, and all that changes is that one error is recorded. -/
structure Fruitless (turn : MenuTurn σ) : Prop where
  ran : turn.ran = []
  reply : ∃ answer message, turn.reply =
    { answer := .ok answer, machine := turn.machine, context := turn.context.error .menus message }

/-- Turns whose watched replies agree go alike. -/
theorem agrees_of_watched {turn other : MenuTurn σ} (event : turn.event = other.event)
    (replies : turn.watched.reply.Agrees Eq other.watched.reply) : turn.Agrees other := by
  -- The runs that a watched host keeps are part of what it agrees on.
  rw [watched_reply, watched_reply] at replies
  obtain ⟨answer, machine, host⟩ := replies
  have state : turn.reply.machine.watched.state = other.reply.machine.watched.state :=
    congrArg MenuMachine.state machine
  have runs : (turn.reply.watched turn.ran).context.host.runs =
      (other.reply.watched other.ran).context.host.runs := congrArg Watched.runs host
  have plain : (turn.reply.watched turn.ran).context.host.host =
      (other.reply.watched other.ran).context.host.host := congrArg Watched.host host
  exact ⟨event, answer, runs, state, plain⟩

/-- On the same machine and the same host, turns of deaf menus go alike. -/
theorem agrees_of_same {machine : MenuMachine σ} (deaf : machine.Deaf) (event : MenuEvent σ)
    {cx other : Context σ} (same : cx.host = other.host) :
    Agrees { machine, context := cx, event } { machine, context := other, event } := by
  -- Deaf menus are deaf on a watched host, too, so the watched turns go alike.
  refine agrees_of_watched ?_ ?_
  · rfl
  have hosts : (cx.watched []).host = (other.watched []).host := by
    simp only [Context.watched, same]
  cases event with
  | start menu => exact (MenuMachine.start_agrees deaf.watched menu hosts).map MenuAnswer.ofStart
  | step menu => exact (MenuMachine.step_agrees deaf.watched menu hosts).map MenuAnswer.polled
  | meanwhile change =>
    have moved := congrArg (fun host : Watched σ => { host with host := change host.host }) hosts
    exact ⟨rfl, rfl, moved⟩

/-- A known menu starts alike in machines with the same menus, whatever they were doing. -/
theorem agrees_of_opens {turn other : MenuTurn σ} (deaf : turn.machine.Deaf) {menu : Int32}
    (opens : turn.opens? = some menu) (event : turn.event = other.event)
    (same : other.machine.table = turn.machine.table)
    (alike : turn.context.host = other.context.host) : turn.Agrees other := by
  obtain ⟨started, descriptor, known⟩ := opens?_eq_some_iff.mp opens
  refine agrees_of_watched event ?_
  have tables : other.machine.watched.table = turn.machine.watched.table := by
    simp only [MenuMachine.watched, same]
  have found : turn.machine.watched.table.lookup menu = .ok descriptor.watched := by
    rw [MenuMachine.lookup_watched, known]
    rfl
  have hosts : (turn.context.watched []).host = (other.context.watched []).host := by
    simp only [Context.watched, alike]
  -- What the two machines did before is not part of the fresh state.
  have replies := (MenuMachine.start_afresh deaf.watched menu hosts tables found).map
    MenuAnswer.ofStart
  unfold reply watched
  rw [← event, started]
  exact replies

/-- A call that is rejected is fruitless. -/
theorem fruitless_of_rejected {turn : MenuTurn σ} (rejected : turn.rejected = true) :
    turn.Fruitless := by
  obtain ⟨machine, cx, event⟩ := turn
  unfold MenuTurn.rejected at rejected
  cases event with
  | start menu =>
    have absent := Option.isNone_iff_eq_none.mp rejected
    obtain ⟨error, unknown⟩ := HandlerTable.lookup_eq_error_iff.mpr absent
    refine ⟨?_, .refused error, s!"Custom request for script menu {menu.toInt} out of bounds", ?_⟩
    · simp only [ran_eq, MenuMachine.startRuns, unknown]
    · simp only [reply, MenuMachine.act, MenuMachine.start, unknown]
      rfl
  | step menu =>
    -- An unknown menu is turned away before it is asked whether it is running.
    cases known : machine.descriptor? menu with
    | none =>
      refine ⟨?_, .polled (.done (-1)),
        s!"Custom update for script menu {menu.toInt} out of bounds", ?_⟩
      · simp only [ran_eq, MenuMachine.stepRuns, known]
      · simp only [reply, MenuMachine.act, MenuMachine.step, known]
        rfl
    | some descriptor =>
      have stray : machine.state.activeMenu ≠ some menu := by simpa [known] using rejected
      refine ⟨?_, .polled (.done (-1)),
        s!"Script menu {menu.toInt} polled without being started", ?_⟩
      · simp only [ran_eq, MenuMachine.stepRuns, known, stray, if_false]
      · simp only [reply, MenuMachine.act, MenuMachine.step, known, stray, ne_eq,
          not_false_eq_true, if_true]
        rfl
  | meanwhile change => contradiction

end MenuTurn

/-- The second run repeats the first, without the calls that were rejected there. -/
structure MenuRun.Repeats (run again : MenuRun σ) : Prop where
  turns : List.Forall₂ MenuTurn.Agrees (run.turns.filter fun turn => !turn.rejected) again.turns
  machine : run.machine = again.machine
  host : run.context.host = again.context.host

/-- The events of a run, without the calls that are rejected in it. -/
def MenuRun.accepted (run : MenuRun σ) : List (MenuEvent σ) :=
  (run.turns.filter fun turn => !turn.rejected).map MenuTurn.event

section

variable {run again : MenuRun σ} {turn other : MenuTurn σ}

/-- A turn that is rejected need not be repeated. -/
theorem MenuRun.Repeats.skip (repeats : run.Repeats again) (rejected : turn.rejected = true) :
    (run.after turn).Repeats again := by
  refine ⟨?_, repeats.machine, repeats.host⟩
  rw [MenuRun.after, List.filter_cons_of_neg (by simp [rejected])]
  exact repeats.turns

/-- A turn that is accepted is repeated by one that goes alike. -/
theorem MenuRun.Repeats.after (repeats : run.Repeats again) (accepted : turn.rejected = false)
    (agrees : turn.Agrees other) : (run.after turn).Repeats (again.after other) := by
  refine ⟨?_, repeats.machine, repeats.host⟩
  rw [MenuRun.after, List.filter_cons_of_pos (by simp [accepted])]
  exact .cons agrees repeats.turns

/-- The event of a turn that is rejected is left out. -/
theorem MenuRun.accepted_skip (run : MenuRun σ) (rejected : turn.rejected = true) :
    (run.after turn).accepted = run.accepted := by
  rw [MenuRun.accepted, MenuRun.after, List.filter_cons_of_neg (by simp [rejected])]
  rfl

/-- The event of a turn that is not rejected is kept. -/
theorem MenuRun.accepted_after (run : MenuRun σ) (accepted : turn.rejected = false) :
    (run.after turn).accepted = turn.event :: run.accepted := by
  rw [MenuRun.accepted, MenuRun.after, List.filter_cons_of_pos (by simp [accepted])]
  rfl

/-- A turn leaves the menus what they are. -/
theorem MenuTurn.deaf_reply (deaf : turn.machine.Deaf) : turn.reply.machine.Deaf := by
  -- Only the table tells what menus there are.
  unfold MenuMachine.Deaf MenuMachine.Respects
  rw [turn.reply_table]
  exact deaf

/-- Turns that go alike leave the same machine, if it has the same menus. -/
theorem MenuTurn.Agrees.machine (agrees : turn.Agrees other)
    (same : turn.machine.table = other.machine.table) :
    turn.reply.machine = other.reply.machine := by
  have tables : turn.reply.machine.table = other.reply.machine.table := by
    rw [turn.reply_table, other.reply_table, same]
  have states := agrees.state
  generalize turn.reply.machine = left at tables states ⊢
  generalize other.reply.machine = left' at tables states ⊢
  -- A machine is made of its menus and its state.
  cases left
  cases left'
  exact congr (congrArg MenuMachine.mk tables) states

end

namespace MenuMachine

variable {machine : MenuMachine σ}

/-- A run is repeated if its first turn goes alike, and the rest of it is repeated. -/
theorem run_repeats_cons {turn other : MenuTurn σ} (accepted : turn.rejected = false)
    (agrees : turn.Agrees other) (same : turn.machine.table = other.machine.table)
    {events : List (MenuEvent σ)}
    (rest : ∀ cx : Context σ, turn.reply.context.host = cx.host →
      let run := turn.reply.machine.run turn.reply.context events
      run.Repeats (turn.reply.machine.run cx run.accepted)) :
    let run := turn.machine.run turn.context (turn.event :: events)
    run.Repeats (other.machine.run other.context run.accepted) := by
  have machines := agrees.machine same
  obtain ⟨machine, cx, event⟩ := turn
  obtain ⟨machine', cx', event'⟩ := other
  obtain rfl : event = event' := agrees.event
  dsimp only
  cases comes : (MenuTurn.reply { machine, context := cx, event }).answer with
  | error halt =>
    -- The turn is the last one in both.
    have alike := agrees.answer.symm.trans comes
    rw [run_halted comes, MenuRun.accepted_after _ accepted, run_halted alike]
    exact MenuRun.Repeats.after ⟨.nil, machines, agrees.host⟩ accepted agrees
  | ok answer =>
    have alike := agrees.answer.symm.trans comes
    rw [run_answered comes, MenuRun.accepted_after _ accepted, run_answered alike, ← machines]
    exact (rest _ agrees.host).after accepted agrees

/-- A run is repeated on the same machine and host, without the calls that it rejects. -/
theorem run_repeats (events : List (MenuEvent σ)) (deaf : machine.Deaf) {cx other : Context σ}
    (same : cx.host = other.host) :
    (machine.run cx events).Repeats (machine.run other (machine.run cx events).accepted) := by
  induction events generalizing machine cx other with
  | nil => exact ⟨.nil, rfl, same⟩
  | cons event events ih =>
    let turn : MenuTurn σ := { machine, context := cx, event }
    cases rejected : turn.rejected with
    | true =>
      -- The turn leaves the machine as it is, and tells the journal alone.
      obtain ⟨-, answer, message, reply⟩ := MenuTurn.fruitless_of_rejected rejected
      have answered : turn.reply.answer = .ok answer := congrArg MenuReply.answer reply
      rw [run_answered answered, MenuRun.accepted_skip _ rejected, reply]
      have again := @ih machine deaf (cx.error .menus message) other same
      exact again.skip rejected
    | false =>
      have agrees := MenuTurn.agrees_of_same deaf event same
      exact run_repeats_cons rejected agrees rfl fun _ => ih (MenuTurn.deaf_reply deaf)

/-- Each menu starts afresh: nothing that was before it matters to it, and no call that is rejected. -/
theorem session_isolated (deaf : machine.Deaf) (cx : Context σ) (events : List (MenuEvent σ)) :
    (∀ turn ∈ (machine.run cx events).turns, turn.rejected = true → turn.Fruitless) ∧
    ∀ (past later : List (MenuTurn σ)) (opening : MenuTurn σ),
      (machine.run cx events).turns = past ++ opening :: later → opening.opens?.isSome →
      ∀ (other : MenuMachine σ) (fresh : Context σ), other.table = machine.table →
        fresh.host = opening.context.host →
        let session : MenuRun σ := { machine.run cx events with turns := opening :: later }
        session.Repeats (other.run fresh session.accepted) := by
  -- That a rejected call is fruitless depends on no other turn.
  refine ⟨fun turn _ rejected => MenuTurn.fruitless_of_rejected rejected, ?_⟩
  intro past later opening happened opens other fresh same host
  obtain ⟨menu, opens⟩ := Option.isSome_iff_exists.mp opens
  obtain ⟨table, rest, again⟩ := run_from happened
  have deaf : opening.machine.Deaf := by
    unfold Deaf Respects
    rw [table]
    exact deaf
  have agrees := @MenuTurn.agrees_of_opens σ opening
    { machine := other, context := fresh, event := opening.event }
    deaf menu opens rfl (same.trans table.symm) host.symm
  have accepted : opening.rejected = false := by
    obtain ⟨started, descriptor, known⟩ := MenuTurn.opens?_eq_some_iff.mp opens
    have found := HandlerTable.lookup_eq_ok_iff.mp known
    simp [MenuTurn.rejected, started, descriptor?, found]
  dsimp only
  rw [← again]
  -- The opening call puts both machines into the same state; from there they go together.
  exact run_repeats_cons accepted agrees (table.trans same.symm) fun _ =>
    run_repeats rest (MenuTurn.deaf_reply deaf)

/-- A menu that is started while another one is open, with calls that are rejected. -/
private def interrupted : MenuRun ScriptedHost :=
  (MenuMachine.builtin 80).run { host := {} }
    [.start 80, .step 80, .step 95, .start 81, .step 80, .step 81, .start 95,
      .meanwhile fun host => { host with keyboardDone := true, keyboardText := "shard" }, .step 81]

/-- A machine that is left in the middle of something else. -/
private def leftOver : MenuMachine ScriptedHost :=
  { MenuMachine.builtin 80 with state := { activeMenu := some 82, progress := 7, returnValue := 9 } }

/-- The second start is the fourth turn. -/
private theorem interrupted_long : 3 < interrupted.turns.length := by
  decide +kernel

/-- The second menu goes the same way in a machine left over from another run. -/
theorem interrupted_menu_isolated :
    (MenuMachine.builtin 80 : MenuMachine ScriptedHost).Deaf ∧
    ∃ past opening later, interrupted.turns = past ++ opening :: later ∧
      opening.opens?.isSome ∧ leftOver.table = (MenuMachine.builtin 80).table ∧
      let session := { interrupted with turns := opening :: later }
      let again := leftOver.run { host := opening.context.host } session.accepted
      again.turns.map (fun turn => turn.reply.answer) =
        [.ok .started, .ok (.polled .pending), .ok .unasked, .ok (.polled (.done 0))] ∧
      session.Repeats again := by
  have deaf : (MenuMachine.builtin 80 : MenuMachine ScriptedHost).Deaf :=
    (builtin_talks 80).respects respected_eq
  have happened : interrupted.turns = interrupted.turns.take 3 ++
      interrupted.turns.get ⟨3, interrupted_long⟩ :: interrupted.turns.drop 4 := by
    rw [List.get_eq_getElem, ← List.drop_eq_getElem_cons, List.take_append_drop]
  have opens : (interrupted.turns.get ⟨3, interrupted_long⟩).opens?.isSome := by decide +kernel
  refine ⟨deaf, _, _, _, happened, opens, rfl, by decide +kernel, ?_⟩
  have isolated := (session_isolated deaf { host := {} } _).2 _ _ _ happened opens leftOver
  exact isolated _ rfl rfl

end MenuMachine

end DungeonHooks
