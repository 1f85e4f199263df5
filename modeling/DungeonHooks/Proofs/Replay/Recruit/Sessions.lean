import Mathlib.Data.List.Chain
import DungeonHooks.Proofs.Dispatch.Table
import DungeonHooks.Proofs.Menu.Isolation
import DungeonHooks.Proofs.Menu.Lifecycle
import DungeonHooks.Proofs.Replay.Recruit.Commit

/-! The roster along a run of the built-in menus: what each turn makes of it, and what a session does. -/

namespace DungeonHooks

section

variable {σ : Type}

/-- One turn comes upon what another one leaves. -/
def MenuTurn.Follows (turn next : MenuTurn σ) : Prop :=
  next.machine = turn.reply.machine ∧ next.context = turn.reply.context

/-- The turns of a run follow on each other. -/
theorem MenuMachine.run_follows (events : List (MenuEvent σ)) (machine : MenuMachine σ)
    (cx : Context σ) : (machine.run cx events).turns.IsChain MenuTurn.Follows := by
  induction events generalizing machine cx with
  | nil => exact .nil
  | cons event events ih =>
    cases comes : (MenuTurn.reply { machine, context := cx, event }).answer with
    | error halt =>
      rw [run_halted comes]
      exact List.isChain_singleton _
    | ok answer =>
      rw [run_answered comes]
      refine List.isChain_cons.mpr ⟨fun next head => ?_, ih _ _⟩
      -- The next turn is the first one of the rest of the run.
      cases events with
      | nil => cases head
      | cons event events =>
        obtain ⟨later, first⟩ := run_first events
        rw [first] at head
        obtain rfl := Option.some.inj head
        exact ⟨rfl, rfl⟩

/-- What a turn leaves and others keep holds when the next one comes, and for each of the others. -/
theorem MenuTurn.follows_invariant {inv : MenuMachine σ → Context σ → Prop}
    {opening last : MenuTurn σ} {between : List (MenuTurn σ)}
    (chain : (opening :: (between ++ [last])).IsChain Follows)
    (start : inv opening.reply.machine opening.reply.context)
    (keeps : ∀ turn ∈ between, inv turn.machine turn.context →
      inv turn.reply.machine turn.reply.context) :
    inv last.machine last.context ∧ ∀ turn ∈ between, inv turn.machine turn.context := by
  induction between generalizing opening with
  | nil =>
    obtain ⟨machine, context⟩ := (List.isChain_cons_cons.mp chain).1
    exact ⟨machine ▸ context ▸ start, nofun⟩
  | cons turn between ih =>
    obtain ⟨⟨machine, context⟩, chain⟩ := List.isChain_cons_cons.mp chain
    obtain ⟨first, others⟩ := List.forall_mem_cons.mp keeps
    -- The first turn comes upon what the opening leaves, and so on.
    have here : inv turn.machine turn.context := machine ▸ context ▸ start
    obtain ⟨end_, rest⟩ := ih chain (first here) others
    exact ⟨end_, List.forall_mem_cons.mpr ⟨here, rest⟩⟩

end

namespace Replay

open RecruitMenu

variable {first : Int32}

/-- Of the built-in menus, the first recruits, and the others make only plain requests. -/
theorem builtin_menu {menu : Int32} {descriptor : MenuDescriptor SimulatedHost}
    (known : (MenuMachine.builtin first).table.lookup menu = .ok descriptor) :
    menu = first ∧ descriptor.menu = .recruit ∨
      menu ≠ first ∧ ∃ talking : TalkingMenu, descriptor.menu = talking.menu ∧
        talking.Uses fun request => request.enlists = false := by
  have there := HandlerTable.lookup_eq_ok_iff.mp known
  have short : ((MenuMachine.builtin first : MenuMachine SimulatedHost).table.records.length : Int) ≤
      Int32.maxValue.toInt := by
    show (3 : Int) ≤ Int32.maxValue.toInt
    decide
  obtain ⟨place, exact, found⟩ := (HandlerTable.record?_indexOf_eq_some_iff short).mp there
  change menu.toInt - first.toInt = place at exact
  -- A place after the first one is that of another id.
  have other (after : 0 < place) : menu ≠ first := by
    rintro rfl
    omega
  match place with
  | 0 =>
    refine .inl ⟨Int32.toInt_inj.mp (by omega), ?_⟩
    obtain rfl := Option.some.inj found
    rfl
  | 1 =>
    obtain rfl := Option.some.inj found
    exact .inr ⟨other Nat.one_pos, _, rfl, TalkingMenu.password_uses (fun _ _ other _ => other) _⟩
  | 2 =>
    obtain rfl := Option.some.inj found
    exact .inr ⟨other Nat.two_pos, _, rfl, TalkingMenu.partnerName_uses fun _ _ other _ => other⟩

/-- The turn is one of the built-in menus, which may go on, and nothing else changes the roster. -/
structure Sound (first : Int32) (turn : MenuTurn SimulatedHost) : Prop where
  table : turn.machine.table = (MenuMachine.builtin first).table
  ready : turn.machine.Ready
  calm : ∀ change, turn.event = .meanwhile change → ∀ host, SameRoster host (change host)

/-- A poll of the recruit menu when it is about to commit. -/
structure Commits (first : Int32) (turn : MenuTurn SimulatedHost) : Prop where
  event : turn.event = .step first
  active : turn.machine.state.activeMenu = some first
  stage : Stage.ofProgress turn.machine.state.progress = .commit

/-- What a turn of the built-in menus makes of the roster. -/
inductive Acts (first : Int32) (turn : MenuTurn SimulatedHost) : Prop where
  /-- Nothing runs, or a keyboard menu does. -/
  | still (unopened : turn.opens? = none)
      (same : SameRoster turn.context.host turn.reply.context.host)
      (state : turn.machine.state.activeMenu = some first →
        turn.reply.machine.state = turn.machine.state ∧
          (turn.rejected = true ∨ turn.reply.answer = .ok .unasked))
  /-- A menu is started. -/
  | opened {menu : Int32} (opens : turn.opens? = some menu)
      (same : SameRoster turn.context.host turn.reply.context.host)
      (browsing : menu = first →
        Stage.ofProgress turn.reply.machine.state.progress = .browse)
  /-- The recruit menu is polled. -/
  | recruiting {ended : Bool} {after : MenuState} (event : turn.event = .step first)
      (active : turn.machine.state.activeMenu = some first)
      (makes : Makes turn.machine.state turn.context.host ended after turn.reply.context.host)
      (answer : turn.reply.answer =
        .ok (.polled (if ended then .done after.returnValue else .pending)))
      (state : turn.reply.machine.state =
        if ended then { after with activeMenu := none } else after)

/-- The list is the first thing that a recruit session shows. -/
theorem create_browses (id : Int32) :
    (create { activeMenu := some id }).Always fun after _ =>
      Stage.ofProgress after.progress = .browse := by
  simp only [create, Talk.bind_eq, Talk.pure_eq_done, Talk.request, Talk.bind, Talk.always_ask,
    Talk.always_bind]
  intro list portrait
  exact (showPortrait_passing _).mono fun _ _ _ => rfl

section

variable {turn : MenuTurn SimulatedHost}

/-- Talks that follow on each other keep the roster if each of them does. -/
theorem frame_roster {talking : TalkingMenu}
    (uses : talking.Uses fun request => request.enlists = false) (id : Int32) (state : MenuState)
    (cx : Context SimulatedHost) :
    SameRoster cx.host ((talking.frame id state).hold cx).context.host := by
  refine hold_roster ((uses.update id state).bind fun (ended, after) => ?_) cx
  -- Only a frame that ends the session holds the closing talk.
  cases ended with
  | false => trivial
  | true => exact (uses.close id after).bind fun _ => trivial

/-- A start keeps the roster, and shows the list if it is the recruit menu that starts. -/
theorem Sound.start {menu : Int32} {descriptor : MenuDescriptor SimulatedHost}
    (sound : Sound first turn) (event : turn.event = .start menu)
    (known : turn.machine.table.lookup menu = .ok descriptor) : Acts first turn := by
  obtain ⟨machine, cx, _⟩ := turn
  obtain rfl := event
  have opens := MenuTurn.opens?_eq_some_iff.mpr ⟨rfl, descriptor, known⟩
  have menus := builtin_menu (sound.table ▸ known)
  rcases menus with ⟨rfl, recruits⟩ | ⟨other, talking, runs, uses⟩
  · obtain ⟨before, host, -, after, context⟩ := MenuMachine.start_machine known recruits cx
    refine .opened opens ?_ fun _ => ?_
    · show SameRoster cx.host (machine.start menu cx).context.host
      rw [context, ← host]
      exact hold_roster (create_uses (fun _ _ other _ => other) _) before
    · show Stage.ofProgress (machine.start menu cx).machine.state.progress = .browse
      rw [after]
      exact (create_browses menu).hold before
  · obtain ⟨before, host, -, -, context⟩ := MenuMachine.start_machine known runs cx
    refine .opened opens ?_ fun same => absurd same other
    show SameRoster cx.host (machine.start menu cx).context.host
    rw [context, ← host]
    exact hold_roster (uses.create menu _) before

/-- A poll of the running menu is a frame of it. -/
theorem Sound.step {menu : Int32} {descriptor : MenuDescriptor SimulatedHost}
    (sound : Sound first turn) (event : turn.event = .step menu)
    (active : turn.machine.state.activeMenu = some menu)
    (found : turn.machine.descriptor? menu = some descriptor) : Acts first turn := by
  obtain ⟨machine, cx, _⟩ := turn
  obtain rfl := event
  have known := HandlerTable.lookup_eq_ok_iff.mpr found
  rcases builtin_menu (sound.table ▸ known) with ⟨rfl, recruits⟩ | ⟨other, talking, runs, uses⟩
  · obtain ⟨answer, state, host⟩ :=
      MenuMachine.step_running ⟨⟨descriptor, found, recruits⟩, active⟩ cx
    have makes := frame_makes menu machine.state cx
    dsimp only at makes
    rw [← host] at makes
    refine .recruiting rfl active makes ?_ (congrArg MenuMachine.state state)
    show ((machine.step menu cx).answer.map MenuAnswer.polled) = _
    rw [answer]
    rfl
  · obtain ⟨-, -, host⟩ := MenuMachine.step_running ⟨⟨descriptor, found, runs⟩, active⟩ cx
    refine .still rfl ?_ fun recruits => ?_
    · show SameRoster cx.host (machine.step menu cx).context.host
      rw [host]
      exact frame_roster uses menu machine.state cx
    · exact absurd (Option.some.inj (active.symm.trans recruits)) other

/-- Every turn of the built-in menus does one of these. -/
theorem Sound.acts (sound : Sound first turn) : Acts first turn := by
  cases rejected : turn.rejected with
  | true =>
    -- A call that is rejected changes nothing but the journal.
    obtain ⟨-, answer, message, reply⟩ := MenuTurn.fruitless_of_rejected rejected
    refine .still ?_ (by rw [reply]; exact .refl _) fun _ => ⟨by rw [reply], .inl rejected⟩
    cases opens : turn.opens? with
    | none => rfl
    | some menu =>
      obtain ⟨event, descriptor, known⟩ := MenuTurn.opens?_eq_some_iff.mp opens
      simp [MenuTurn.rejected, event, MenuMachine.descriptor?,
        HandlerTable.lookup_eq_ok_iff.mp known] at rejected
  | false =>
    cases event : turn.event with
    | meanwhile change =>
      have acts : turn.reply = turn.machine.act (.meanwhile change) turn.context :=
        congrArg (turn.machine.act · turn.context) event
      refine .still (by rw [MenuTurn.opens?, event]) ?_ fun _ =>
        ⟨by rw [acts]; rfl, .inr (by rw [acts]; rfl)⟩
      rw [acts]
      exact sound.calm change event turn.context.host
    | start menu =>
      simp only [MenuTurn.rejected, event, Option.isNone_eq_false_iff,
        Option.isSome_iff_exists] at rejected
      obtain ⟨descriptor, found⟩ := rejected
      exact sound.start event (HandlerTable.lookup_eq_ok_iff.mpr found)
    | step menu =>
      simp only [MenuTurn.rejected, event, Bool.or_eq_false_iff, Option.isNone_eq_false_iff,
        Option.isSome_iff_exists, decide_eq_false_iff_not, not_not] at rejected
      obtain ⟨⟨descriptor, found⟩, active⟩ := rejected
      exact sound.step event active found

/-- All turns of a run of the built-in menus are sound, if nothing but the menus changes the roster. -/
theorem run_sound {events : List (MenuEvent SimulatedHost)}
    (calm : ∀ change, .meanwhile change ∈ events → ∀ host, SameRoster host (change host))
    {machine : MenuMachine SimulatedHost}
    (table : machine.table = (MenuMachine.builtin first).table) (ready : machine.Ready)
    (cx : Context SimulatedHost) :
    ∀ turn ∈ (machine.run cx events).turns, Sound first turn := by
  induction events generalizing machine cx with
  | nil => simp [MenuMachine.run]
  | cons event events ih =>
    have sound : Sound first { machine, context := cx, event } :=
      ⟨table, ready, fun change same => calm change (List.mem_cons.mpr (.inl same.symm))⟩
    cases comes : (MenuTurn.reply { machine, context := cx, event }).answer with
    | error halt =>
      rw [MenuMachine.run_halted comes]
      exact List.forall_mem_singleton.mpr sound
    | ok answer =>
      rw [MenuMachine.run_answered comes]
      -- A turn leaves the menus what they are, and ready to go on.
      refine List.forall_mem_cons.mpr ⟨sound, ih
        (fun change member => calm change (List.mem_cons_of_mem _ member))
        ((MenuTurn.reply_table _).trans table) (MenuTurn.ready_reply _ ready) _⟩

end

end Replay

end DungeonHooks
