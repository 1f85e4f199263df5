import DungeonHooks.Engine
import DungeonHooks.Proofs.Menu.Lifecycle

/-! The keyboard hooks: what they answer from the settings, the menus and the session that goes on, and that the answers agree. -/

namespace DungeonHooks

variable {σ : Type}

namespace Engine

/-- Lets an event happen to the menus of the engine, by way of its hooks. -/
def act (engine : Engine σ) (event : MenuEvent σ) (cx : Context σ) :
    Except Halt MenuAnswer × Engine σ × Context σ :=
  match event with
  | .start menu =>
    let (answer, engine, cx) := engine.startMenu menu cx
    (answer.map .ofStart, engine, cx)
  | .step menu =>
    let (answer, engine, cx) := engine.stepMenu menu cx
    (answer.map .polled, engine, cx)
  | .meanwhile change => (.ok .unasked, engine, { cx with host := change cx.host })

/-- The engine after events one after the other. Nothing happens any more once a hook has halted. -/
def after (engine : Engine σ) (cx : Context σ) : List (MenuEvent σ) → Engine σ
  | [] => engine
  | event :: events =>
    match engine.act event cx with
    | (.error _, engine, _) => engine
    | (.ok _, engine, cx) => engine.after cx events

/--
The menus of the engine are the given ones, and none of them was started yet.

They are fewer than there are indices, and leave it alone which of them is running.
-/
structure Furnished (engine : Engine σ) (menus : List (MenuDescriptor σ)) : Prop where
  made : engine.menus = .new engine.settings.firstCustomMenu menus
  short : (menus.length : Int) ≤ Int32.maxValue.toInt
  steady : ∀ descriptor ∈ menus, descriptor.menu.Steady

/-- The id is that of a menu, which stands where the exact distance from the first custom menu counts to. -/
def Numbers (engine : Engine σ) (menus : List (MenuDescriptor σ)) (id : Int32)
    (menu : MenuDescriptor σ) : Prop :=
  ∃ place : Nat, id.toInt - engine.settings.firstCustomMenu.toInt = place ∧
    menus[place]? = some menu

/-- What the hooks of an engine answer about the keyboard, given the menu whose session goes on. -/
structure KeyboardAgrees (engine : Engine σ) (menus : List (MenuDescriptor σ))
    (running : Option Int32) : Prop where
  prompt : ∀ id prompt, engine.keyboardPrompt id = some prompt ↔
    ∃ menu, engine.Numbers menus id menu ∧ menu.keyboardPrompt = some prompt
  /-- A menu is opened with the keyboard that all of them share. -/
  shared : ∀ id menu, engine.Numbers menus id menu →
    engine.settings.keyboardMode id = engine.settings.keyboardFallbackMode
  /-- It is not refused: its `create` runs on a fresh state, and the start is answered unless that halts. -/
  accepted : ∀ id menu, engine.Numbers menus id menu → ∀ cx, ∃ fresh : MenuFrame σ,
    fresh.state = { activeMenu := some id } ∧ fresh.context.host = cx.host ∧
      (engine.startMenu id cx).1 = (menu.menu.create id fresh).1.map .ok
  /-- Before the first custom menu, every keyboard is the host's own. -/
  native : ∀ id, id < engine.settings.firstCustomMenu →
    engine.settings.keyboardMode id = id ∧ engine.keyboardPrompt id = none
  /-- The menu that the engine holds for running is the one whose session goes on, and it is known. -/
  active : engine.menus.state.activeMenu = running
  known : ∀ id, running = some id → ∃ menu, engine.Numbers menus id menu
  confirm : ∀ id menu, running = some id → engine.Numbers menus id menu →
    ∀ default, engine.confirmString default = menu.keyboardConfirm.getD default
  idle : running = none → ∀ default, engine.confirmString default = default

end Engine

namespace MenuMachine

/-- The menus of a machine stay the same, however long it runs. -/
theorem run_table (events : List (MenuEvent σ)) (machine : MenuMachine σ) (cx : Context σ) :
    (machine.run cx events).machine.table = machine.table := by
  induction events generalizing machine cx with
  | nil => rfl
  | cons event events ih =>
    let turn : MenuTurn σ := { machine, context := cx, event }
    have kept : turn.reply.machine.table = machine.table := turn.reply_table
    cases comes : turn.reply.answer with
    | error halt =>
      rw [run_halted comes]
      exact kept
    | ok answer =>
      rw [run_answered comes]
      exact (ih turn.reply.machine turn.reply.context).trans kept

/-- After a run, the machine can go on, and holds that menu for running whose session does. -/
theorem run_ready (events : List (MenuEvent σ)) {machine : MenuMachine σ} (ready : machine.Ready)
    (cx : Context σ) :
    (machine.run cx events).machine.Ready ∧
      (machine.run cx events).machine.state.activeMenu =
        (machine.run cx events).turns.foldl MenuTurn.next machine.state.activeMenu := by
  -- What carries the induction is that the machine can go on after every turn.
  induction events generalizing machine cx with
  | nil => exact ⟨ready, rfl⟩
  | cons event events ih =>
    let turn : MenuTurn σ := { machine, context := cx, event }
    have going : turn.reply.machine.Ready := turn.ready_reply ready
    have next : turn.reply.machine.state.activeMenu = turn.next machine.state.activeMenu :=
      turn.active_next ready
    cases comes : turn.reply.answer with
    | error halt =>
      rw [run_halted comes]
      exact ⟨going, next⟩
    | ok answer =>
      rw [run_answered comes]
      obtain ⟨last, holds⟩ := ih going turn.reply.context
      refine ⟨last, holds.trans ?_⟩
      rw [next]
      rfl

/-- Starting a known menu runs its `create` on a fresh state, and answers as that returns. -/
theorem start_created {machine : MenuMachine σ} {id : Int32} {menu : MenuDescriptor σ}
    (known : machine.descriptor? id = some menu) (cx : Context σ) :
    ∃ fresh : MenuFrame σ, fresh.state = { activeMenu := some id } ∧
      fresh.context.host = cx.host ∧
      (machine.start id cx).answer = (menu.menu.create id fresh).1.map .ok := by
  have record := HandlerTable.lookup_eq_ok_iff.mpr known
  refine ⟨{ state := { activeMenu := some id }, context := machine.announce id menu.name cx },
    rfl, machine.announce_host id menu.name cx, ?_⟩
  simp only [start, record, settle, frame]

end MenuMachine

namespace Engine

/-- The hooks let an event happen to the machine of the engine, and to nothing else of it. -/
theorem act_eq (engine : Engine σ) (event : MenuEvent σ) (cx : Context σ) :
    engine.act event cx = engine.menuCall (engine.menus.act event cx) := by
  cases event <;> rfl

/-- After any events, the engine is the same but for its machine, which has run through them. -/
theorem after_eq (events : List (MenuEvent σ)) (engine : Engine σ) (cx : Context σ) :
    engine.after cx events = { engine with menus := (engine.menus.run cx events).machine } := by
  induction events generalizing engine cx with
  | nil => rfl
  | cons event events ih =>
    let turn : MenuTurn σ := { machine := engine.menus, context := cx, event }
    have same : engine.act event cx = engine.menuCall turn.reply := engine.act_eq event cx
    rw [after, same]
    -- An answer is the engine's as it is the machine's, and so is a halt.
    cases comes : turn.reply.answer with
    | error halt =>
      rw [MenuMachine.run_halted comes]
      simp only [menuCall, comes]
      rfl
    | ok answer =>
      rw [MenuMachine.run_answered comes]
      simp only [menuCall, comes]
      exact ih _ _

/-- No event changes the settings. -/
theorem after_settings (events : List (MenuEvent σ)) (engine : Engine σ) (cx : Context σ) :
    (engine.after cx events).settings = engine.settings := by
  rw [after_eq]

/-- An id of a menu is not less than the first of them. -/
theorem Numbers.reached {engine : Engine σ} {menus : List (MenuDescriptor σ)} {id : Int32}
    {menu : MenuDescriptor σ} (numbers : engine.Numbers menus id menu) :
    engine.settings.firstCustomMenu ≤ id := by
  obtain ⟨place, exact, -⟩ := numbers
  rw [Int32.le_iff_toInt_le]
  omega

section

variable {engine : Engine σ} {menus : List (MenuDescriptor σ)}
  (table : engine.menus.table = (MenuMachine.new engine.settings.firstCustomMenu menus).table)
  (short : (menus.length : Int) ≤ Int32.maxValue.toInt)

include table short

/-- The machine knows exactly the menus that stand at an exact distance. -/
theorem descriptor?_eq_some_iff {id : Int32} {menu : MenuDescriptor σ} :
    engine.menus.descriptor? id = some menu ↔ engine.Numbers menus id menu := by
  rw [MenuMachine.descriptor?, table]
  exact HandlerTable.record?_indexOf_eq_some_iff short

/-- The prompt of a menu is found at its id, and nowhere else. -/
theorem keyboardPrompt_eq_some_iff {id : Int32} {prompt : UInt16} :
    engine.keyboardPrompt id = some prompt ↔
      ∃ menu, engine.Numbers menus id menu ∧ menu.keyboardPrompt = some prompt := by
  have found : (engine.menus.descriptor? id).bind (·.keyboardPrompt) = some prompt ↔
      ∃ menu, engine.Numbers menus id menu ∧ menu.keyboardPrompt = some prompt := by
    rw [Option.bind_eq_some_iff]
    simp only [descriptor?_eq_some_iff table short]
  unfold keyboardPrompt
  split
  case isTrue before =>
    -- The check before the look-up keeps nothing back, since the distance is less than zero.
    rw [Int32.lt_iff_toInt_lt] at before
    constructor
    · nofun
    · rintro ⟨menu, ⟨place, exact, -⟩, -⟩
      omega
  case isFalse => exact found

/-- The running menu, if there is one, is asked for its own text, and nobody else is. -/
theorem confirmString_of_numbers {id : Int32} {menu : MenuDescriptor σ}
    (active : engine.menus.state.activeMenu = some id) (known : engine.Numbers menus id menu)
    (default : UInt16) : engine.confirmString default = menu.keyboardConfirm.getD default := by
  have found : engine.menus.active? = some menu := by
    rw [MenuMachine.active?, active]
    exact (descriptor?_eq_some_iff table short).mpr known
  rw [confirmString, found]
  rfl

/-- The answers agree whenever the machine can go on, whatever it has been through. -/
theorem keyboardAgrees_of_ready (ready : engine.menus.Ready) :
    engine.KeyboardAgrees menus engine.menus.state.activeMenu where
  prompt id text := keyboardPrompt_eq_some_iff table short
  shared id menu known := if_pos known.reached
  accepted id menu known cx := by
    have found := (descriptor?_eq_some_iff table short).mpr known
    exact engine.menus.start_created found cx
  native id before := by
    have apart : ¬ engine.settings.firstCustomMenu ≤ id := Int32.not_le.mpr before
    exact ⟨if_neg apart, if_pos before⟩
  active := rfl
  known id running := by
    obtain ⟨menu, found⟩ := Option.isSome_iff_exists.mp (ready.known id running)
    exact ⟨menu, (descriptor?_eq_some_iff table short).mp found⟩
  confirm id menu running known default :=
    confirmString_of_numbers table short running known default
  idle ended default := by
    -- Without a running menu there is no descriptor to ask.
    rw [confirmString, MenuMachine.active?, ended]
    rfl

end

/-- In every state that the hooks lead to, all that they answer about the keyboard agrees. -/
theorem keyboard_hooks_agree {engine : Engine σ} {menus : List (MenuDescriptor σ)}
    (furnished : engine.Furnished menus) (cx : Context σ) (events : List (MenuEvent σ)) :
    (engine.after cx events).KeyboardAgrees menus
      (MenuTurn.running (engine.menus.run cx events).turns) := by
  obtain ⟨made, short, steady⟩ := furnished
  -- A new machine runs nothing, and has the menus that it was made of.
  have ready : engine.menus.Ready := by
    rw [made]
    exact ⟨steady, nofun⟩
  have resting : engine.menus.state.activeMenu = none := by
    rw [made]
    rfl
  obtain ⟨going, active⟩ := MenuMachine.run_ready events ready cx
  have kept := MenuMachine.run_table events engine.menus cx
  -- What the turns tell about the running menu is what the machine holds.
  rw [resting] at active
  rw [MenuTurn.running, ← active, after_eq]
  exact keyboardAgrees_of_ready (kept.trans (congrArg MenuMachine.table made)) short going

/-- With the smallest word as the first custom menu, a refused start and a restart leave the keyboard with the menu that was started last. -/
theorem lowest_menus_agree :
    let first := Int32.minValue
    let engine : Engine ScriptedHost := .new { firstCustomMenu := first }
    let menus := (MenuMachine.builtin first : MenuMachine ScriptedHost).table.records
    let events : List (MenuEvent ScriptedHost) :=
      [.start (first + 1), .start Int32.maxValue, .step (first + 1), .start (first + 2)]
    let reached := engine.after { host := {} } events
    engine.Furnished menus ∧ reached.KeyboardAgrees menus (some (first + 2)) ∧
      reached.keyboardPrompt (first + 1) = some 263 ∧
      reached.keyboardPrompt Int32.maxValue = none ∧
      ∀ default, reached.confirmString default = 292 := by
  intro first engine menus events reached
  have furnished : engine.Furnished menus := ⟨rfl, by decide, builtin_steady first⟩
  have running : MenuTurn.running (engine.menus.run { host := {} } events).turns =
      some (first + 2) := by
    decide +kernel
  have agrees : reached.KeyboardAgrees menus (some (first + 2)) := by
    rw [← running]
    exact keyboard_hooks_agree furnished { host := {} } events
  have base : reached.settings = { firstCustomMenu := first } :=
    after_settings events engine { host := {} }
  -- From here on, the answers follow from what the hooks agree on.
  clear_value reached
  refine ⟨furnished, agrees, ?_, ?_, ?_⟩
  · refine (agrees.prompt _ _).mpr ⟨menus[1], ⟨1, ?_, rfl⟩, rfl⟩
    rw [base]
    decide
  · -- The largest word is as far off as can be, and no menu stands there.
    refine Option.eq_none_iff_forall_ne_some.mpr fun prompt prompted => ?_
    obtain ⟨menu, ⟨place, exact, found⟩, -⟩ := (agrees.prompt _ _).mp prompted
    obtain ⟨inside, -⟩ := List.getElem?_eq_some_iff.mp found
    have few : menus.length = 3 := rfl
    have far : Int32.maxValue.toInt - first.toInt = UInt32.size - 1 := by decide
    rw [base, far, UInt32.size] at exact
    omega
  · refine fun default => agrees.confirm _ menus[2] rfl ⟨2, ?_, rfl⟩ default
    rw [base]
    decide

end Engine

end DungeonHooks
