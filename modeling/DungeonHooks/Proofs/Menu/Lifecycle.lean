import DungeonHooks.Host.Scripted
import DungeonHooks.Proofs.Menu.Steady
import DungeonHooks.Proofs.Menu.Turns

/-! The lifecycle of a menu: created by a start, updated by polls, closed once by the last of them. -/

namespace DungeonHooks

variable {σ : Type}

/-- The menu whose session goes on after the turn, given the one before it. -/
def MenuTurn.next (running : Option Int32) (turn : MenuTurn σ) : Option Int32 :=
  match turn.opens? with
  | some menu => some menu
  | none => if turn.ends then none else running

/-- The menu that was started last, unless its session has ended since. -/
def MenuTurn.running (past : List (MenuTurn σ)) : Option Int32 :=
  past.foldl MenuTurn.next none

/-- What a turn runs, answers and leaves, given the menu whose session goes on before it. -/
inductive MenuTurn.Lawful (turn : MenuTurn σ) (running : Option Int32) : Prop where
  /-- Nothing runs between two calls. -/
  | meanwhile {change : σ → σ} (event : turn.event = .meanwhile change)
      (ran : turn.ran = []) (answer : turn.reply.answer = .ok .unasked)
      (state : turn.reply.machine.state = turn.machine.state)
  /-- Nothing runs when an unknown menu is started. -/
  | refused {menu : Int32} {error : OutOfRange} (event : turn.event = .start menu)
      (unknown : turn.machine.table.lookup menu = .error error)
      (ran : turn.ran = []) (answer : turn.reply.answer = .ok (.refused error))
      (state : turn.reply.machine.state = turn.machine.state)
  /-- A start runs `create`, on a fresh state. -/
  | started {menu : Int32} {descriptor : MenuDescriptor σ} {outcome : Except Halt Unit}
      {before : Context σ} {frame : MenuFrame σ} (event : turn.event = .start menu)
      (known : turn.machine.table.lookup menu = .ok descriptor)
      (created : descriptor.menu.create menu
        { state := { activeMenu := some menu }, context := before } = (outcome, frame))
      (ran : turn.ran = [⟨menu, { activeMenu := some menu }, frame.state, .created outcome⟩])
      (answer : turn.reply.answer = outcome.map fun _ => .started)
      (state : turn.reply.machine.state = frame.state)
  /-- Nothing runs when a menu is polled whose session does not go on. -/
  | stray {menu : Int32} (event : turn.event = .step menu) (other : running ≠ some menu)
      (ran : turn.ran = []) (answer : turn.reply.answer = .ok (.polled (.done (-1))))
      (state : turn.reply.machine.state = turn.machine.state)
  /-- A poll runs `update`. -/
  | pending {menu : Int32} {descriptor : MenuDescriptor σ} {frame : MenuFrame σ}
      (event : turn.event = .step menu) (current : running = some menu)
      (known : turn.machine.table.lookup menu = .ok descriptor)
      (updated : descriptor.menu.update menu (turn.machine.frame turn.context) =
        (.ok false, frame))
      (ran : turn.ran = [⟨menu, turn.machine.state, frame.state, .updated (.ok false)⟩])
      (answer : turn.reply.answer = .ok (.polled .pending))
      (state : turn.reply.machine.state = frame.state)
  /-- An `update` that ends the session is followed by `close`. -/
  | finished {menu : Int32} {descriptor : MenuDescriptor σ} {frame after : MenuFrame σ}
      (event : turn.event = .step menu) (current : running = some menu)
      (known : turn.machine.table.lookup menu = .ok descriptor)
      (updated : descriptor.menu.update menu (turn.machine.frame turn.context) =
        (.ok true, frame))
      (closed : descriptor.menu.close menu frame = (.ok (), after))
      (ran : turn.ran = [⟨menu, turn.machine.state, frame.state, .updated (.ok true)⟩,
        ⟨menu, frame.state, after.state, .closed (.ok ())⟩])
      (answer : turn.reply.answer = .ok (.polled (.done after.state.returnValue)))
      (state : turn.reply.machine.state = { after.state with activeMenu := none })
  /-- An `update` may halt. -/
  | updateHalted {menu : Int32} {descriptor : MenuDescriptor σ} {frame : MenuFrame σ}
      {halt : Halt} (event : turn.event = .step menu) (current : running = some menu)
      (known : turn.machine.table.lookup menu = .ok descriptor)
      (updated : descriptor.menu.update menu (turn.machine.frame turn.context) =
        (.error halt, frame))
      (ran : turn.ran = [⟨menu, turn.machine.state, frame.state, .updated (.error halt)⟩])
      (answer : turn.reply.answer = .error halt)
      (state : turn.reply.machine.state = frame.state)
  /-- A `close` may halt, and the session does not end then. -/
  | closeHalted {menu : Int32} {descriptor : MenuDescriptor σ} {frame after : MenuFrame σ}
      {halt : Halt} (event : turn.event = .step menu) (current : running = some menu)
      (known : turn.machine.table.lookup menu = .ok descriptor)
      (updated : descriptor.menu.update menu (turn.machine.frame turn.context) =
        (.ok true, frame))
      (closed : descriptor.menu.close menu frame = (.error halt, after))
      (ran : turn.ran = [⟨menu, turn.machine.state, frame.state, .updated (.ok true)⟩,
        ⟨menu, frame.state, after.state, .closed (.error halt)⟩])
      (answer : turn.reply.answer = .error halt)
      (state : turn.reply.machine.state = after.state)

/-- Updates of a menu in order, with a `close` right after the one that ends the session. -/
inductive Updates (menu : Int32) : List CallbackRun → Prop where
  | open : Updates menu []
  | pending {found left : MenuState} {rest : List CallbackRun} (later : Updates menu rest) :
      Updates menu (⟨menu, found, left, .updated (.ok false)⟩ :: rest)
  | halted {found left : MenuState} {halt : Halt} :
      Updates menu [⟨menu, found, left, .updated (.error halt)⟩]
  | closed {found between left : MenuState} {outcome : Except Halt Unit} :
      Updates menu [⟨menu, found, between, .updated (.ok true)⟩,
        ⟨menu, between, left, .closed outcome⟩]

/-- The callbacks of a session: `create` on a fresh state, then the updates. -/
inductive Course (menu : Int32) : List CallbackRun → Prop where
  | created {left : MenuState} {rest : List CallbackRun} (later : Updates menu rest) :
      Course menu (⟨menu, { activeMenu := some menu }, left, .created (.ok ())⟩ :: rest)
  | halted {left : MenuState} {halt : Halt} :
      Course menu [⟨menu, { activeMenu := some menu }, left, .created (.error halt)⟩]

/-- A menu that was started, and the turns until the next one is. -/
structure MenuSession (σ : Type) where
  menu : Int32
  opening : MenuTurn σ
  later : List (MenuTurn σ)

/-- The turns of a session. -/
def MenuSession.turns (session : MenuSession σ) : List (MenuTurn σ) :=
  session.opening :: session.later

/-- The session is opened by its first turn alone, and runs the callbacks of its menu in order. -/
structure MenuSession.Proper (session : MenuSession σ) : Prop where
  opening : session.opening.opens? = some session.menu
  later : ∀ turn ∈ session.later, turn.opens? = none
  course : Course session.menu (session.turns.flatMap MenuTurn.ran)

/-- The menus of the machine leave the mark of the running one alone, and it is one of them. -/
structure MenuMachine.Ready (machine : MenuMachine σ) : Prop where
  steady : ∀ descriptor ∈ machine.table.records, descriptor.menu.Steady
  known : ∀ menu, machine.state.activeMenu = some menu → (machine.descriptor? menu).isSome

namespace MenuTurn

/-- A start runs `create` if the menu is known, and nothing otherwise. -/
theorem lawful_start (machine : MenuMachine σ) (menu : Int32) (cx : Context σ)
    (running : Option Int32) :
    Lawful { machine, context := cx, event := .start menu } running := by
  cases known : machine.table.lookup menu with
  | error error =>
    refine .refused rfl known ?_ ?_ ?_ <;>
      simp [ran_eq, reply, MenuMachine.act, MenuMachine.start, MenuMachine.startRuns, known,
        MenuReply.map, Except.map, MenuAnswer.ofStart]
  | ok descriptor =>
    rcases created : descriptor.menu.create menu
      { state := { activeMenu := some menu },
        context := machine.announce menu descriptor.name cx } with ⟨outcome, frame⟩
    have started : machine.start menu cx =
        { machine with state := { activeMenu := some menu } }.settle (outcome.map .ok) frame := by
      simp only [MenuMachine.start, known, MenuMachine.frame, created]
    refine .started rfl known created ?_ ?_ ?_
    · simp only [ran_eq, MenuMachine.startRuns, known, created]
    · cases outcome <;> simp [reply, MenuMachine.act, started, MenuReply.map, MenuMachine.settle,
        Except.map, MenuAnswer.ofStart]
    · simp [reply, MenuMachine.act, started, MenuReply.map, MenuMachine.settle]

/-- A poll runs the frame of the menu if it is the running one, and nothing else. -/
theorem lawful_step (machine : MenuMachine σ) (menu : Int32) (cx : Context σ)
    (known : ∀ menu, machine.state.activeMenu = some menu → (machine.descriptor? menu).isSome) :
    Lawful { machine, context := cx, event := .step menu } machine.state.activeMenu := by
  by_cases active : machine.state.activeMenu = some menu
  case neg =>
    -- The two ways to be turned away differ in the journal alone.
    refine .stray rfl active ?_ ?_ ?_ <;>
      cases found : machine.descriptor? menu <;>
        simp [ran_eq, MenuMachine.stepRuns, found, active, reply, MenuMachine.act,
          MenuMachine.step, MenuReply.map, Except.map]
  -- A menu that is running is one that the machine knows.
  obtain ⟨descriptor, found⟩ := Option.isSome_iff_exists.mp (known menu active)
  have record := HandlerTable.lookup_eq_ok_iff.mpr found
  have runs : ran { machine, context := cx, event := .step menu } =
      descriptor.menu.frameRuns menu (machine.frame cx) := by
    simp only [ran_eq, MenuMachine.stepRuns, found, active, if_true]
  have comes : reply { machine, context := cx, event := .step menu } =
      (machine.step menu cx).map .polled := rfl
  simp only [MenuMachine.step, found, active, ne_eq, not_true_eq_false, if_false] at comes
  rcases updated : descriptor.menu.update menu (machine.frame cx) with ⟨halt | ended, frame⟩
  · simp only [updated, Menu.frameRuns] at runs comes
    exact .updateHalted rfl active record updated runs (by rw [comes]; rfl) (by rw [comes]; rfl)
  cases ended with
  | false =>
    simp only [updated, Menu.frameRuns] at runs comes
    exact .pending rfl active record updated runs (by rw [comes]; rfl) (by rw [comes]; rfl)
  | true =>
    rcases closed : descriptor.menu.close menu frame with ⟨halt | done, after⟩ <;>
      simp only [updated, closed, Menu.frameRuns] at runs comes
    · exact .closeHalted rfl active record updated closed runs (by rw [comes]; rfl)
        (by rw [comes]; rfl)
    · exact .finished rfl active record updated closed runs (by rw [comes]; rfl)
        (by rw [comes]; rfl)

/-- A turn does what it should, given the menu that the machine itself holds for running. -/
theorem lawful (turn : MenuTurn σ)
    (known : ∀ menu, turn.machine.state.activeMenu = some menu →
      (turn.machine.descriptor? menu).isSome) :
    turn.Lawful turn.machine.state.activeMenu := by
  obtain ⟨machine, cx, event⟩ := turn
  cases event with
  | meanwhile change => exact .meanwhile rfl rfl rfl rfl
  | start menu => exact lawful_start machine menu cx _
  | step menu => exact lawful_step machine menu cx known

/-- The machine holds that menu for running whose session goes on. -/
theorem active_next (turn : MenuTurn σ) (ready : turn.machine.Ready) :
    turn.reply.machine.state.activeMenu = turn.next turn.machine.state.activeMenu := by
  have steady {menu : Int32} {descriptor : MenuDescriptor σ}
      (known : turn.machine.table.lookup menu = .ok descriptor) : descriptor.menu.Steady :=
    ready.steady descriptor (HandlerTable.mem_of_get known)
  -- A callback leaves the mark where it was, so only a start and a finish move it.
  cases turn.lawful ready.known with
  | meanwhile event ran _ state => simp [next, opens?, ends, event, ran, state]
  | @refused menu error event unknown ran _ state =>
    have absent := HandlerTable.lookup_eq_error_iff.mp ⟨error, unknown⟩
    simp [next, opens?, ends, event, ran, state, MenuMachine.descriptor?, absent]
  | started event known created _ _ state =>
    have present := HandlerTable.lookup_eq_ok_iff.mp known
    rw [state, (steady known).create.kept created]
    simp [next, opens?, event, MenuMachine.descriptor?, present]
  | stray event _ ran _ state => simp [next, opens?, ends, event, ran, state]
  | pending event _ known updated ran _ state =>
    rw [state, (steady known).update.kept updated]
    simp [next, opens?, ends, event, ran, MenuMachine.frame]
  | finished event _ _ _ _ ran _ state => simp [next, opens?, ends, event, ran, state]
  | updateHalted event _ known updated ran _ state =>
    rw [state, (steady known).update.kept updated]
    simp [next, opens?, ends, event, ran, MenuMachine.frame]
  | closeHalted event _ known updated closed ran _ state =>
    -- Though the session was over, its mark stays where it was.
    rw [state, (steady known).close.kept closed, (steady known).update.kept updated]
    simp [next, opens?, ends, event, ran, MenuMachine.frame]

/-- The menu that goes on after a turn went on before it, or it is one that the machine knows. -/
theorem next_known {turn : MenuTurn σ} {running : Option Int32} {menu : Int32}
    (going : turn.next running = some menu) :
    running = some menu ∨ (turn.machine.descriptor? menu).isSome := by
  unfold next at going
  split at going
  case h_1 opened =>
    obtain ⟨-, descriptor, known⟩ := opens?_eq_some_iff.mp (opened.trans going)
    exact .inr (Option.isSome_of_mem (HandlerTable.lookup_eq_ok_iff.mp known))
  case h_2 =>
    split at going
    · contradiction
    · exact .inl going

/-- The machine can go on after every turn. -/
theorem ready_reply (turn : MenuTurn σ) (ready : turn.machine.Ready) :
    turn.reply.machine.Ready := by
  have table := turn.reply_table
  refine ⟨table ▸ ready.steady, fun menu active => ?_⟩
  rw [turn.active_next ready] at active
  -- The menu was running before, or it has just been started.
  unfold MenuMachine.descriptor?
  rw [table]
  exact (next_known active).elim (ready.known menu) id

/-- Turns that do what they should one after the other, with none after a halt. -/
inductive Orderly : Option Int32 → List (MenuTurn σ) → Prop where
  | nil {running : Option Int32} : Orderly running []
  | cons {running : Option Int32} {turn : MenuTurn σ} {later : List (MenuTurn σ)}
      (lawful : turn.Lawful running) (active : turn.machine.state.activeMenu = running)
      (last : ∀ halt, turn.reply.answer = .error halt → later = [])
      (rest : Orderly (turn.next running) later) : Orderly running (turn :: later)

/-- The turns of a run do what they should. -/
theorem run_orderly (events : List (MenuEvent σ)) {machine : MenuMachine σ}
    (ready : machine.Ready) (cx : Context σ) :
    Orderly machine.state.activeMenu (machine.run cx events).turns := by
  -- What carries the induction is that the machine can go on after every turn.
  induction events generalizing machine cx with
  | nil => exact .nil
  | cons event events ih =>
    let turn : MenuTurn σ := { machine, context := cx, event }
    have lawful := turn.lawful ready.known
    cases comes : turn.reply.answer with
    | error halt =>
      rw [MenuMachine.run_halted comes]
      exact .cons lawful rfl (fun _ _ => rfl) .nil
    | ok answer =>
      rw [MenuMachine.run_answered comes]
      -- What goes on after the turn is what the machine holds then.
      refine .cons lawful rfl (fun halt halted => ?_) ?_
      · exact absurd (comes.symm.trans halted) nofun
      · rw [← turn.active_next ready]
        exact ih (turn.ready_reply ready) _

/-- Each of the turns does what it should, given those that came before it. -/
theorem Orderly.at {running : Option Int32} {past future : List (MenuTurn σ)} {turn : MenuTurn σ}
    (orderly : Orderly running (past ++ turn :: future)) :
    turn.Lawful (past.foldl next running) ∧
      turn.machine.state.activeMenu = past.foldl next running ∧
      ∀ halt, turn.reply.answer = .error halt → future = [] := by
  -- What goes on before the turn is told by the turns of the past, one after the other.
  induction past generalizing running with
  | nil =>
    cases orderly with
    | cons lawful active last rest => exact ⟨lawful, active, last⟩
  | cons first past ih =>
    cases orderly with
    | cons lawful active last rest => exact ih rest

/-- Turns split into the rest of the session going on, if there is one, and the later sessions. -/
structure Split (running : Option Int32) (turns rest : List (MenuTurn σ))
    (sessions : List (MenuSession σ)) : Prop where
  turns : turns = rest ++ sessions.flatMap MenuSession.turns
  unopened : ∀ turn ∈ rest, turn.opens? = none
  idle : running = none → ∀ turn ∈ rest, turn.ran = []
  updates : ∀ menu, running = some menu → Updates menu (rest.flatMap ran)
  proper : ∀ session ∈ sessions, session.Proper

section

variable {running : Option Int32} {turn : MenuTurn σ} {later rest : List (MenuTurn σ)}
  {sessions : List (MenuSession σ)}

/-- A turn in which nothing runs belongs to whatever goes on. -/
theorem Split.quiet (split : Split (turn.next running) later rest sessions)
    (unopened : turn.opens? = none) (ran : turn.ran = []) :
    Split running (turn :: later) (turn :: rest) sessions := by
  have same : turn.next running = running := by simp [next, unopened, ends, ran]
  rw [same] at split
  refine ⟨congrArg (turn :: ·) split.turns, ?_, fun none => ?_, fun menu going => ?_, split.proper⟩
  · exact List.forall_mem_cons.mpr ⟨unopened, split.unopened⟩
  · exact List.forall_mem_cons.mpr ⟨ran, split.idle none⟩
  · rw [List.flatMap_cons, ran]
    exact split.updates menu going

/-- A turn that starts a menu opens a session, whose course begins with what it runs. -/
theorem Split.opened {menu : Int32} {sessions : List (MenuSession σ)}
    (split : Split (turn.next running) later rest sessions)
    (opened : turn.opens? = some menu)
    (course : Course menu (turn.ran ++ rest.flatMap MenuTurn.ran)) :
    Split running (turn :: later) [] ({ menu, opening := turn, later := rest } :: sessions) := by
  refine ⟨?_, nofun, nofun, fun menu _ => .open, ?_⟩
  · rw [split.turns]
    rfl
  · refine List.forall_mem_cons.mpr ⟨⟨opened, split.unopened, ?_⟩, split.proper⟩
    rw [MenuSession.turns, List.flatMap_cons]
    exact course

/-- A turn of a running menu belongs to its session. -/
theorem Split.polled {menu : Int32} (split : Split (turn.next running) later rest sessions)
    (unopened : turn.opens? = none) (current : running = some menu)
    (updates : Updates menu (turn.ran ++ rest.flatMap MenuTurn.ran)) :
    Split running (turn :: later) (turn :: rest) sessions := by
  subst current
  refine ⟨congrArg (turn :: ·) split.turns, ?_, nofun, fun other same => ?_, split.proper⟩
  · exact List.forall_mem_cons.mpr ⟨unopened, split.unopened⟩
  · obtain rfl := Option.some.inj same
    rw [List.flatMap_cons]
    exact updates

end

/-- Turns that do what they should split into sessions. -/
theorem Orderly.split {running : Option Int32} {turns : List (MenuTurn σ)}
    (orderly : Orderly running turns) : ∃ rest sessions, Split running turns rest sessions := by
  -- From the last turn to the first: a start cuts off the turns behind it as a session.
  induction orderly with
  | nil => exact ⟨[], [], rfl, nofun, nofun, fun menu _ => .open, nofun⟩
  | @cons running turn later lawful active last orderly ih =>
    obtain ⟨rest, sessions, split⟩ := ih
    -- A turn that halts has nothing behind it that could go on.
    have halted (halt : Halt) (answer : turn.reply.answer = .error halt) : rest = [] := by
      have none := split.turns
      rw [last halt answer] at none
      exact (List.append_eq_nil_iff.mp none.symm).1
    cases lawful with
    | meanwhile event ran => exact ⟨_, _, split.quiet (by rw [opens?, event]) ran⟩
    | @refused menu error event unknown ran =>
      have absent := HandlerTable.lookup_eq_error_iff.mp ⟨error, unknown⟩
      refine ⟨_, _, split.quiet ?_ ran⟩
      simp [opens?, event, MenuMachine.descriptor?, absent]
    | stray event other ran => exact ⟨_, _, split.quiet (by rw [opens?, event]) ran⟩
    | @started menu descriptor outcome before frame event known created ran answer state =>
      have present := HandlerTable.lookup_eq_ok_iff.mp known
      have opened : turn.opens? = some menu := by
        simp [opens?, event, MenuMachine.descriptor?, present]
      refine ⟨_, _, split.opened opened ?_⟩
      rw [ran]
      cases outcome with
      | error halt =>
        rw [halted halt answer]
        exact .halted
      | ok done => exact .created (split.updates menu (by simp [next, opened]))
    | @pending menu descriptor frame event current known updated ran answer state =>
      have unopened : turn.opens? = none := by rw [opens?, event]
      refine ⟨_, _, split.polled unopened current ?_⟩
      rw [ran]
      exact .pending (split.updates menu (by simp [next, unopened, ends, ran, current]))
    | finished event current known updated closed ran answer state =>
      have unopened : turn.opens? = none := by rw [opens?, event]
      have idle := split.idle (by simp [next, unopened, ends, ran])
      refine ⟨_, _, split.polled unopened current ?_⟩
      -- After the close, nothing runs until the next start.
      rw [ran, List.flatMap_eq_nil_iff.mpr idle]
      exact .closed
    | updateHalted event current known updated ran answer state =>
      refine ⟨_, _, split.polled (by rw [opens?, event]) current ?_⟩
      rw [ran, halted _ answer]
      exact .halted
    | closeHalted event current known updated closed ran answer state =>
      refine ⟨_, _, split.polled (by rw [opens?, event]) current ?_⟩
      rw [ran, halted _ answer]
      exact .closed

end MenuTurn

/-- The run goes from one session to the next, with the callbacks of each in order. -/
structure MenuRun.FollowsLifecycle (run : MenuRun σ) (events : List (MenuEvent σ)) : Prop where
  /-- Every event has its turn, unless a callback halts. -/
  complete : run.turns.map MenuTurn.event = events ∨
    ∃ turn ∈ run.turns, ∃ halt, turn.reply.answer = .error halt
  /-- Nothing runs but in sessions, and there is one for every menu that is started. -/
  sessions : ∃ (idle : List (MenuTurn σ)) (sessions : List (MenuSession σ)),
    run.turns = idle ++ sessions.flatMap MenuSession.turns ∧
      (∀ turn ∈ idle, turn.opens? = none ∧ turn.ran = []) ∧
      ∀ session ∈ sessions, session.Proper
  /-- A turn depends on the turns before it by the menu alone whose session goes on after them. -/
  lawful : ∀ past turn future, run.turns = past ++ turn :: future →
    turn.Lawful (MenuTurn.running past) ∧
      turn.machine.state.activeMenu = MenuTurn.running past ∧
      ∀ halt, turn.reply.answer = .error halt → future = []

/-- Starts and polls in any order run the callbacks of one session after the other. -/
theorem menu_lifecycle (first : Int32) {menus : List (MenuDescriptor σ)}
    (steady : ∀ descriptor ∈ menus, descriptor.menu.Steady) (cx : Context σ)
    (events : List (MenuEvent σ)) :
    ((MenuMachine.new first menus).run cx events).FollowsLifecycle events := by
  -- A new machine runs nothing, so what it holds for running is what the past tells.
  have ready : (MenuMachine.new first menus).Ready := ⟨steady, nofun⟩
  have orderly := MenuTurn.run_orderly events ready cx
  obtain ⟨idle, sessions, split⟩ := orderly.split
  refine ⟨MenuMachine.run_events events _ cx, ⟨idle, sessions, split.turns, ?_, split.proper⟩, ?_⟩
  · exact fun turn member => ⟨split.unopened turn member, split.idle rfl turn member⟩
  · intro past turn future happened
    rw [happened] at orderly
    exact orderly.at

/-- Two menus of which the second is started before the first is over, with polls that stray. -/
private def restarted : List (MenuEvent ScriptedHost) :=
  [.step 80, .start 80, .step 80, .start 95, .start 81, .step 80, .step 81,
    .meanwhile fun host => { host with keyboardDone := true, keyboardText := "shard" },
    .step 81, .step 81]

/-- The second menu is polled to its end while polls of the first are turned away. -/
theorem restarted_menu_lifecycle :
    (∀ descriptor ∈ (MenuMachine.builtin 80 : MenuMachine ScriptedHost).table.records,
      descriptor.menu.Steady) ∧
    (((MenuMachine.builtin 80).run { host := {} } restarted).turns.map fun turn =>
      turn.reply.answer) =
        [.ok (.polled (.done (-1))), .ok .started, .ok (.polled .pending),
          .ok (.refused { table := .menus, index := 15, len := 3 }), .ok .started,
          .ok (.polled (.done (-1))), .ok (.polled .pending), .ok .unasked,
          .ok (.polled (.done 0)), .ok (.polled (.done (-1)))] ∧
    ((MenuMachine.builtin 80).run { host := {} } restarted).FollowsLifecycle restarted :=
  ⟨builtin_steady 80, by decide +kernel, menu_lifecycle 80 (builtin_steady 80) _ _⟩

end DungeonHooks
