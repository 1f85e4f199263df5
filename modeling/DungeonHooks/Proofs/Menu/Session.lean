import DungeonHooks.Menu.Machine
import DungeonHooks.Proofs.Dispatch.Table
import DungeonHooks.Proofs.Host.Talk

/-! Sessions of menus made of talks: what is said from the start of one to its last frame. -/

namespace DungeonHooks

/-- The session goes on with the same mark and the same windows. -/
structure Unmoved (state after : MenuState) (said : List Exchange) : Prop where
  active : after.activeMenu = state.activeMenu
  windows : after.windows = state.windows
  quiet : Quiet said

variable {σ : Type} [Host σ]

namespace TalkingMenu

/-- A frame as a single talk: `update`, and `close` after it if the session is over by then. -/
def frame (menu : TalkingMenu) (id : Int32) (state : MenuState) : Talk (Bool × MenuState) :=
  (menu.update id state).bind fun (ended, state) =>
    if ended then (menu.close id state).bind fun state => .done (true, state)
    else .done (false, state)

/-- A frame is taken by its `update`, with `close` after it only if the session is over. -/
theorem always_frame {menu : TalkingMenu} {id : Int32} {state : MenuState}
    {post : Bool × MenuState → List Exchange → Prop} :
    (menu.frame id state).Always post ↔ (menu.update id state).Always fun ended said =>
      if ended.1 then
        (menu.close id ended.2).Always fun after more => post (true, after) (said ++ more)
      else post (false, ended.2) said := by
  unfold frame
  rw [Talk.always_bind]
  -- The two sides differ only below the end of the update.
  refine iff_of_eq (congrArg _ (funext fun (ended, after) => funext fun said => ?_))
  cases ended <;> simp

/-- A frame leads to where its `update` leads, and on through `close` if the session is over. -/
theorem leads_frame {menu : TalkingMenu} {id : Int32} {state : MenuState} {pre : σ → Prop}
    {last : MenuState → σ → Prop} {post : Bool × MenuState → σ → Prop}
    (updates : Talk.Leads pre (menu.update id state) fun ended host =>
      if ended.1 then last ended.2 host else post (false, ended.2) host)
    (closes : ∀ after, Talk.Leads (last after) (menu.close id after) fun closed =>
      post (true, closed)) :
    Talk.Leads pre (menu.frame id state) post := by
  refine updates.bind fun (ended, after) => ?_
  cases ended with
  | false => exact Talk.leads_done fun host holds => by simpa using holds
  | true =>
    -- Only here the closing talk is held, with the host that the update left.
    refine Talk.Leads.mono ((closes after).bind fun closed => Talk.leads_done fun _ holds => holds)
      (fun host holds => by simpa using holds) fun _ _ holds => holds

/-- What is said when the menu is started. -/
def opening (menu : TalkingMenu) (id : Int32) (cx : Context σ) : List Exchange :=
  ((menu.create id { activeMenu := some id }).hold cx).transcript

/-- What is said when the menu is polled. -/
def polling (menu : TalkingMenu) (id : Int32) (machine : MenuMachine σ) (cx : Context σ) :
    List Exchange :=
  ((menu.frame id machine.state).hold cx).transcript

/-- The callbacks leave it alone which menu is running. -/
structure Steady (menu : TalkingMenu) : Prop where
  create : ∀ id state, (menu.create id state).Always fun after _ =>
    after.activeMenu = state.activeMenu
  frame : ∀ id state, (menu.frame id state).Always fun ended _ =>
    ended.2.activeMenu = state.activeMenu

/-- A session so far: the machine between two frames, and all that was said since the start. -/
inductive Session (menu : TalkingMenu) (id : Int32) : MenuMachine σ → List Exchange → Prop where
  /-- A start begins a session, whatever the machine was doing. -/
  | started {machine : MenuMachine σ} {descriptor : MenuDescriptor σ}
      (known : machine.table.lookup id = .ok descriptor) (runs : descriptor.menu = menu.menu)
      (cx : Context σ) : Session menu id (machine.start id cx).machine (menu.opening id cx)
  /-- A poll may find host and journal in any condition. -/
  | polled {machine : MenuMachine σ} {said : List Exchange}
      (session : Session menu id machine said) (cx : Context σ)
      (pending : (machine.step id cx).answer = .ok .pending) :
      Session menu id (machine.step id cx).machine (said ++ menu.polling id machine cx)

end TalkingMenu

namespace MenuMachine

/-- The machine runs a menu under an id. -/
structure Running (machine : MenuMachine σ) (menu : TalkingMenu) (id : Int32) : Prop where
  known : ∃ descriptor, machine.descriptor? id = some descriptor ∧ descriptor.menu = menu.menu
  active : machine.state.activeMenu = some id

omit [Host σ] in
/-- A start changes the state of the machine, never its menus. -/
theorem start_table (machine : MenuMachine σ) (id : Int32) (cx : Context σ) :
    (machine.start id cx).machine.table = machine.table := by
  unfold start
  split <;> rfl

omit [Host σ] in
/-- A poll changes the state of the machine, never its menus. -/
theorem step_table (machine : MenuMachine σ) (id : Int32) (cx : Context σ) :
    (machine.step id cx).machine.table = machine.table := by
  unfold step
  -- The callbacks work on the state alone.
  repeat' split
  all_goals rfl

omit [Host σ] in
/-- That a menu starts is told to the journal, and to nobody else. -/
theorem announce_host (machine : MenuMachine σ) (id : Int32) (name : String) (cx : Context σ) :
    (machine.announce id name cx).host = cx.host := by
  unfold announce
  cases machine.state.activeMenu <;> rfl

omit [Host σ] in
/-- Starting an unknown menu changes nothing but the journal. -/
theorem start_unknown {machine : MenuMachine σ} {id : Int32} {error : OutOfRange}
    (unknown : machine.table.lookup id = .error error) (cx : Context σ) :
    (machine.start id cx).answer = .ok (.error error) ∧
      (machine.start id cx).machine = machine ∧ (machine.start id cx).context.host = cx.host := by
  -- The id is looked up before anything else is done.
  unfold start
  simp only [unknown]
  exact ⟨trivial, trivial, rfl⟩

omit [Host σ] in
/-- Starting a known menu may halt, but the menu is not refused. -/
theorem start_known {machine : MenuMachine σ} {id : Int32} {descriptor : MenuDescriptor σ}
    (known : machine.table.lookup id = .ok descriptor) (cx : Context σ) (error : OutOfRange) :
    (machine.start id cx).answer ≠ .ok (.error error) := by
  intro refused
  simp only [start, known, settle, Except.map] at refused
  -- What `create` returns is passed on as it is.
  split at refused <;> simp at refused

/-- Starting a menu made of talks holds its first one, from a fresh state. -/
theorem start_machine {machine : MenuMachine σ} {menu : TalkingMenu} {id : Int32}
    {descriptor : MenuDescriptor σ} (known : machine.table.lookup id = .ok descriptor)
    (runs : descriptor.menu = menu.menu) (cx : Context σ) :
    ∃ before : Context σ, before.host = cx.host ∧
      (machine.start id cx).answer = .ok (.ok ()) ∧
      (machine.start id cx).machine = { machine with
        state := ((menu.create id { activeMenu := some id }).hold before).value } ∧
      (machine.start id cx).context =
        ((menu.create id { activeMenu := some id }).hold before).context := by
  -- All that happens before is an entry or two in the journal.
  unfold start
  simp only [known, runs, TalkingMenu.menu, settle, MenuMachine.frame]
  exact ⟨_, announce_host machine id descriptor.name cx, rfl, rfl, rfl⟩

/-- Polling a running menu holds its frame, which tells whether the session goes on. -/
theorem step_running {machine : MenuMachine σ} {menu : TalkingMenu} {id : Int32}
    (running : machine.Running menu id) (cx : Context σ) :
    let held := (menu.frame id machine.state).hold cx
    (machine.step id cx).answer =
        .ok (if held.value.1 then .done held.value.2.returnValue else .pending) ∧
      (machine.step id cx).machine = { machine with
        state := if held.value.1 then { held.value.2 with activeMenu := none }
          else held.value.2 } ∧
      (machine.step id cx).context.host = held.context.host := by
  obtain ⟨⟨descriptor, known, runs⟩, active⟩ := running
  unfold step TalkingMenu.frame
  simp only [known, active, runs, TalkingMenu.menu, MenuMachine.frame, Talk.hold_bind, ne_eq,
    not_true_eq_false, if_false]
  -- Only an update that ends the session is followed by the closing talk.
  cases ended : ((menu.update id machine.state).hold cx).value.1 with
  | false => simp [settle]
  | true => simp [settle, finish, Talk.hold_bind, Context.info, Context.record]

/-- A poll leaves the menu running exactly if its frame does not end the session. -/
theorem step_pending_iff {machine : MenuMachine σ} {menu : TalkingMenu} {id : Int32}
    (running : machine.Running menu id) (cx : Context σ) :
    (machine.step id cx).answer = .ok .pending ↔
      ((menu.frame id machine.state).hold cx).value.1 = false := by
  -- The two answers are told apart by the flag of the frame.
  rw [(step_running running cx).1]
  cases ((menu.frame id machine.state).hold cx).value.1 <;> simp [MenuStep.pending, MenuStep.done]

/-- A poll that finishes answers with the value that the frame left behind. -/
theorem step_done_iff {machine : MenuMachine σ} {menu : TalkingMenu} {id value : Int32}
    (running : machine.Running menu id) (cx : Context σ) :
    (machine.step id cx).answer = .ok (.done value) ↔
      ((menu.frame id machine.state).hold cx).value.1 = true ∧
        ((menu.frame id machine.state).hold cx).value.2.returnValue = value := by
  -- Only an answer that is done carries a value.
  rw [(step_running running cx).1]
  cases ((menu.frame id machine.state).hold cx).value.1 <;> simp [MenuStep.pending, MenuStep.done]

end MenuMachine

/-- What a session begins with and every frame keeps holds as long as the session lasts. -/
theorem TalkingMenu.Session.invariant {menu : TalkingMenu} {id : Int32}
    {inv : MenuState → List Exchange → Prop} (steady : menu.Steady)
    (opens : (menu.create id { activeMenu := some id }).Always inv)
    (keeps : ∀ state said, inv state said → (menu.frame id state).Always fun ended more =>
      ended.1 = false → inv ended.2 (said ++ more))
    {machine : MenuMachine σ} {said : List Exchange} (session : Session menu id machine said) :
    machine.Running menu id ∧ inv machine.state said := by
  -- The machine keeps running the menu because no callback touches the mark of the session.
  induction session with
  | @started machine descriptor known runs cx =>
    obtain ⟨before, host, -, after, -⟩ := MenuMachine.start_machine known runs cx
    have record := HandlerTable.lookup_eq_ok_iff.mp known
    rw [after]
    refine ⟨⟨⟨descriptor, record, runs⟩, (steady.create id _).hold before⟩, ?_⟩
    rw [opening, (Talk.hold_deaf _ host.symm).2.1]
    exact opens.hold before
  | @polled machine said session cx pending ih =>
    obtain ⟨running, holds⟩ := ih
    have going := (MenuMachine.step_pending_iff running cx).mp pending
    rw [(MenuMachine.step_running running cx).2.1, going, if_neg (by simp)]
    have active := (steady.frame id machine.state).hold cx
    exact ⟨⟨running.known, active.trans running.active⟩, (keeps _ _ holds).hold cx going⟩

/-- A session keeps its menu running. -/
theorem TalkingMenu.Session.running {menu : TalkingMenu} {id : Int32} (steady : menu.Steady)
    {machine : MenuMachine σ} {said : List Exchange} (session : Session menu id machine said) :
    machine.Running menu id :=
  -- Nothing needs to be kept besides.
  (session.invariant steady (Talk.always_true _) fun _ _ _ =>
    (Talk.always_true _).mono fun _ _ holds _ => holds).1

end DungeonHooks
