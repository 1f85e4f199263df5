import DungeonHooks.Menu.Machine

/-! Watching a menu machine: its host keeps a list of the callbacks that ran, and nothing else changes. -/

namespace DungeonHooks

/-- Which callback ran, and how it came out. -/
inductive CallbackResult where
  | created (outcome : Except Halt Unit)
  | updated (outcome : Except Halt Bool)
  | closed (outcome : Except Halt Unit)
  deriving DecidableEq

/-- A run of a callback: the id it was given, and the states it found and left. -/
structure CallbackRun where
  menu : Int32
  found : MenuState
  left : MenuState
  result : CallbackResult
  deriving DecidableEq

/-- A host, and the callbacks that ran on it so far. -/
structure Watched (σ : Type) where
  host : σ
  runs : List CallbackRun := []

variable {σ α : Type}

/-- The context with some runs kept beside its host. -/
def Context.watched (cx : Context σ) (runs : List CallbackRun) : Context (Watched σ) :=
  { host := { host := cx.host, runs }, journal := cx.journal, log := cx.log }

/-- The context without the runs beside its host. -/
def Context.unwatched (cx : Context (Watched σ)) : Context σ :=
  { host := cx.host.host, journal := cx.journal, log := cx.log }

/-- The callback on a watched host, which keeps every run of it. -/
def MenuCallback.watched (result : Except Halt α → CallbackResult) (callback : MenuCallback σ α) :
    MenuCallback (Watched σ) α := fun id frame =>
  let (outcome, left) :=
    callback id { state := frame.state, context := frame.context.unwatched }
  let run : CallbackRun :=
    { menu := id, found := frame.state, left := left.state, result := result outcome }
  (outcome,
    { state := left.state, context := left.context.watched (frame.context.host.runs ++ [run]) })

/-- The menu on a watched host. -/
def Menu.watched (menu : Menu σ) : Menu (Watched σ) where
  create := menu.create.watched .created
  update := menu.update.watched .updated
  close := menu.close.watched .closed

/-- The menu on a watched host, under its name. -/
def MenuDescriptor.watched (descriptor : MenuDescriptor σ) : MenuDescriptor (Watched σ) where
  name := descriptor.name
  keyboardPrompt := descriptor.keyboardPrompt
  keyboardConfirm := descriptor.keyboardConfirm
  menu := descriptor.menu.watched

/-- What is left of a call, with some runs kept beside the host. -/
def MenuFrame.watched (frame : MenuFrame σ) (runs : List CallbackRun) : MenuFrame (Watched σ) :=
  { state := frame.state, context := frame.context.watched runs }

/-- What runs in a frame of a menu: its `update`, and `close` if the session is over by then. -/
def Menu.frameRuns (menu : Menu σ) (id : Int32) (frame : MenuFrame σ) : List CallbackRun :=
  match menu.update id frame with
  | (.ok true, between) =>
    let closed := menu.close id between
    [⟨id, frame.state, between.state, .updated (.ok true)⟩,
      ⟨id, between.state, closed.2.state, .closed closed.1⟩]
  | (outcome, left) => [⟨id, frame.state, left.state, .updated outcome⟩]

/-- The machine on a watched host. -/
def MenuMachine.watched (machine : MenuMachine σ) : MenuMachine (Watched σ) where
  table :=
    { kind := machine.table.kind
      firstId := machine.table.firstId
      records := machine.table.records.map MenuDescriptor.watched }
  state := machine.state

/-- The reply of a watched machine. -/
def MenuReply.watched (reply : MenuReply σ α) (runs : List CallbackRun) :
    MenuReply (Watched σ) α :=
  { answer := reply.answer
    machine := reply.machine.watched
    context := reply.context.watched runs }

/-- A watched callback does what the callback does, and keeps its run. -/
theorem MenuCallback.watched_run (result : Except Halt α → CallbackResult)
    (callback : MenuCallback σ α) (id : Int32) (frame : MenuFrame σ) (runs : List CallbackRun) :
    callback.watched result id (frame.watched runs) =
      ((callback id frame).1, (callback id frame).2.watched (runs ++
        [{ menu := id, found := frame.state, left := (callback id frame).2.state,
           result := result (callback id frame).1 }])) :=
  rfl

namespace MenuMachine

/-- The watched machine knows the same ids. -/
theorem descriptor?_watched (machine : MenuMachine σ) (id : Int32) :
    machine.watched.descriptor? id = (machine.descriptor? id).map MenuDescriptor.watched := by
  unfold descriptor? HandlerTable.record? HandlerTable.indexOf watched
  -- A negative index has no record in either table.
  split
  · rfl
  · exact List.getElem?_map

/-- Looking a menu up fails alike in the watched machine. -/
theorem lookup_watched (machine : MenuMachine σ) (id : Int32) :
    machine.watched.table.lookup id = (machine.table.lookup id).map MenuDescriptor.watched := by
  have same := machine.descriptor?_watched id
  unfold descriptor? at same
  unfold HandlerTable.lookup HandlerTable.get
  rw [same]
  -- The error names the table by its length, which is kept.
  cases machine.table.record? (machine.table.indexOf id) with
  | none => simp [Except.map, watched, HandlerTable.len, HandlerTable.indexOf]
  | some descriptor => rfl

/-- A watched call settles as the call does. -/
theorem settle_watched (machine : MenuMachine σ) (answer : Except Halt α) (frame : MenuFrame σ)
    (runs : List CallbackRun) :
    machine.watched.settle answer (frame.watched runs) =
      (machine.settle answer frame).watched runs := by
  cases answer <;> rfl

/-- The start of a menu is announced alike to a watched host. -/
theorem announce_watched (machine : MenuMachine σ) (id : Int32) (name : String) (cx : Context σ)
    (runs : List CallbackRun) :
    machine.watched.announce id name (cx.watched runs) =
      (machine.announce id name cx).watched runs := by
  -- What is announced depends on whether another menu is still running.
  unfold announce
  rw [show machine.watched.state = machine.state from rfl]
  cases machine.state.activeMenu <;> rfl

/-- What runs when a menu is started: its `create`, if the menu is known. -/
def startRuns (machine : MenuMachine σ) (id : Int32) (cx : Context σ) : List CallbackRun :=
  match machine.table.lookup id with
  | .error _ => []
  | .ok descriptor =>
    let fresh : MenuState := { activeMenu := some id }
    let created := descriptor.menu.create id
      { state := fresh, context := machine.announce id descriptor.name cx }
    [⟨id, fresh, created.2.state, .created created.1⟩]

/-- What runs when a menu is polled: its frame, if the menu is the running one. -/
def stepRuns (machine : MenuMachine σ) (id : Int32) (cx : Context σ) : List CallbackRun :=
  match machine.descriptor? id with
  | none => []
  | some descriptor =>
    if machine.state.activeMenu = some id then descriptor.menu.frameRuns id (machine.frame cx)
    else []

/-- Starting a menu does the same on a watched host. -/
theorem start_watched (machine : MenuMachine σ) (id : Int32) (cx : Context σ)
    (runs : List CallbackRun) :
    machine.watched.start id (cx.watched runs) =
      (machine.start id cx).watched (runs ++ machine.startRuns id cx) := by
  unfold start startRuns
  rw [lookup_watched]
  cases machine.table.lookup id with
  | error error => rw [List.append_nil]; rfl
  | ok descriptor =>
    simp only [Except.map]
    -- The state that `create` is given is fresh in both machines.
    rw [show descriptor.watched.name = descriptor.name from rfl, announce_watched]
    exact settle_watched { machine with state := { activeMenu := some id } } _ _ _

/-- Polling a menu does the same on a watched host. -/
theorem step_watched (machine : MenuMachine σ) (id : Int32) (cx : Context σ)
    (runs : List CallbackRun) :
    machine.watched.step id (cx.watched runs) =
      (machine.step id cx).watched (runs ++ machine.stepRuns id cx) := by
  unfold step stepRuns
  rw [descriptor?_watched]
  cases machine.descriptor? id with
  | none => rw [List.append_nil]; rfl
  | some descriptor =>
    simp only [Option.map_some]
    rw [show machine.watched.state = machine.state from rfl,
      show machine.watched.frame (cx.watched runs) = (machine.frame cx).watched runs from rfl]
    by_cases active : machine.state.activeMenu = some id
    · rw [if_neg (not_not_intro active), if_neg (not_not_intro active), if_pos active,
        show descriptor.watched.menu.update = descriptor.menu.update.watched .updated from rfl,
        MenuCallback.watched_run, Menu.frameRuns]
      -- The update decides whether there is a close to be watched too.
      rcases descriptor.menu.update id (machine.frame cx) with ⟨halt | ended, frame⟩
      · exact settle_watched machine _ frame _
      · cases ended with
        | false => exact settle_watched machine _ frame _
        | true =>
          dsimp only
          -- The close comes after the update in what is kept.
          rw [show descriptor.watched.menu.close = descriptor.menu.close.watched .closed from rfl,
            MenuCallback.watched_run, List.append_assoc]
          rcases descriptor.menu.close id frame with ⟨halt | done, frame⟩
          · exact settle_watched machine _ frame _
          · rfl
    · rw [if_pos active, if_pos active, if_neg active, List.append_nil]
      rfl

end MenuMachine

end DungeonHooks
