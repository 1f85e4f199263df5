import DungeonHooks.Proofs.Replay.Misnomers
import DungeonHooks.Proofs.Replay.MoveSlots
import DungeonHooks.Proofs.Replay.Wear

/-! Replays with the built-in table alone: what is left of an entity is told by two totals of the steps. -/

namespace DungeonHooks

namespace EffectChain

variable {σ : Type} [Host σ] (cx : Context σ)

/-- Of all items, the built-in table claims the elixir only, which refreshes its target. -/
theorem itemEffect_builtin (thrown : Bool) (use : ItemUse) :
    let resolved := (EffectChain.new .builtin []).itemEffect thrown cx use
    resolved.chain = .new .builtin [] ∧ resolved.event =
      if use.item.id = elixir then { use with target := Replay.refreshed use.target } else use := by
  have handler : (LocalEffects.builtin : LocalEffects σ).items[use.item.id]? =
      if use.item.id = elixir then some restoreAllPp else none := by
    simp only [LocalEffects.builtin, Std.TreeMap.getElem?_insert, Std.TreeMap.getElem?_emptyc,
      Std.LawfulEqCmp.compare_eq_iff_eq]
    simp only [eq_comm]
  obtain ⟨user, ⟨valid, monster⟩, item⟩ := use
  -- An elixir is claimed even if the target is no monster, which it then does nothing to.
  by_cases isElixir : item.id = elixir
  · rw [if_pos isElixir] at handler ⊢
    cases monster <;>
      simp [itemEffect, resolve, new, consult, Resolver.item, Resolver.ask, LocalEffects.resolver,
        handler, restoreAllPp, Replay.refreshed]
  · rw [if_neg isElixir] at handler ⊢
    simp [itemEffect, resolve, new, consult, Resolver.item, Resolver.ask, LocalEffects.resolver,
      handler, Handled.declined]

/-- The built-in table claims no move. -/
theorem moveEffect_builtin (use : MoveUse) :
    let resolved := (EffectChain.new .builtin []).moveEffect cx use
    resolved.handled = false ∧ resolved.event = use ∧ resolved.chain = .new .builtin [] := by
  -- It has no handlers of moves at all.
  have handler : (LocalEffects.builtin : LocalEffects σ).moves[use.input.moveId]? = none := by
    simp [LocalEffects.builtin]
  simp [moveEffect, resolve, new, consult, Resolver.move, Resolver.ask, LocalEffects.resolver,
    handler, Handled.declined]

/-- Whatever it does about a special process, it stays the same table. -/
theorem specialProcess_builtin (call : ProcessCall) :
    ((EffectChain.new .builtin []).specialProcess cx call).chain = .new .builtin [] := by
  -- A table has no memory, with a handler for the process or without.
  cases handler : (LocalEffects.builtin : LocalEffects σ).processes[call.id]? <;>
    simp [specialProcess, resolveProcess, resolve, new, consult, Resolver.process, Resolver.ask,
      LocalEffects.resolver, handler, Handled.declined]

end EffectChain

namespace Replay

/-- The power with which a step strikes the entity of a name; a power below zero is none. -/
def Step.harm (name : String) : Step → Nat
  | .useMove step => if step.target = name then step.power.toInt.toNat else 0
  | .opcode _ | .useItem _ | .specialProcess _ | .menu _ => 0

/-- The step is the use of an elixir on the entity of a name. -/
def Step.refreshes (items : Std.TreeMap String Item) (name : String) : Step → Bool
  | .useItem step => step.target == name && items[step.item]?.any (·.id == elixir)
  | .opcode _ | .useMove _ | .specialProcess _ | .menu _ => false

/-- What a step makes of the entity of a name, if nobody but the built-in table has a say. -/
def Step.wear (items : Std.TreeMap String Item) (name : String) (step : Step) (entity : Entity) :
    Entity :=
  match step with
  | .useItem _ => if step.refreshes items name then refreshed entity else entity
  | .useMove strike => if strike.target = name then (nativeDamage strike.power entity).2 else entity
  | .opcode _ | .specialProcess _ | .menu _ => entity

/-- Nobody but the built-in table is asked in the session, and the items are those of the world. -/
structure Session.Native (world : WorldSetup) (session : Session) : Prop where
  chain : session.engine.effects = .new .builtin []
  items : ∀ name : String, session.items[name]? = world.items[name]?

/-- The user's own copy of a move is stored where it was taken from. -/
theorem storeMove_usedMove (id : UInt16) (user : Entity) :
    storeMove (moveSlot id user) (usedMove id user) user = user := by
  cases known : moveSlot id user with
  | none => rfl
  | some slot =>
    have own := getElem?_of_moveSlot known
    obtain ⟨valid, _ | monster⟩ := user
    · rfl
    · -- Writing a list where it is the same already does not change it.
      have same : monster.moves.set slot (usedMove id { valid, monster := some monster }) =
          monster.moves := by
        obtain ⟨inside, holds⟩ := List.getElem?_eq_some_iff.mp own
        rw [← holds]
        exact List.set_getElem_self inside
      simp only [storeMove, same]

section

variable {world : WorldSetup} {session : Session} {result : StepReport × Session}

/-- If a pair is written back with its user unchanged, then only the target is another one. -/
theorem Session.getElem?_putPair_target {user target : String} {pair : Entity × Entity}
    (found : session.pair user target = .ok pair) (change : Entity → Entity) (name : String) :
    (session.putPair user target (pair.1, change pair.2)).entities[name]? =
      session.entities[name]?.map fun entity => if target = name then change entity else entity := by
  obtain ⟨-, here, there⟩ := getElem?_of_pair found
  simp only [putPair, Std.TreeMap.getElem?_insert, Std.LawfulEqCmp.compare_eq_iff_eq]
  by_cases isTarget : target = name
  · subst isTarget
    simp only [if_true, there, Option.map_some]
  · simp only [if_neg isTarget, Option.map_id']
    -- The user is written over itself.
    split
    case isTrue isUser => rw [← isUser, here]
    case isFalse => rfl

/-- The session stays native, and each entity of it is what a step makes of it. -/
structure Session.Wears (world : WorldSetup) (step : Step) (before after : Session) : Prop where
  native : after.Native world
  entities : ∀ name : String,
    after.entities[name]? = before.entities[name]?.map (step.wear world.items name)

variable (native : session.Native world)

include native

/-- The use of an item refreshes the target if it is an elixir, and else does nothing. -/
theorem runItem_native {step : ItemStep} {use : ItemUse} (found : session.itemUse step = .ok use)
    (report : StepReport) :
    Session.Wears world (.useItem step) session (runItem step report use session).2 := by
  obtain ⟨known, paired⟩ := Session.getElem?_of_itemUse found
  obtain ⟨kept, made⟩ := EffectChain.itemEffect_builtin session.context step.thrown use
  rw [← native.chain] at kept made
  let event := (session.engine.effects.itemEffect step.thrown session.context use).event
  let change := if use.item.id = elixir then refreshed else id
  have same : event = { use with target := change use.target } := by
    simp only [event, change, made]
    split <;> rfl
  refine ⟨⟨kept.trans native.chain, fun name => ?_⟩, fun name => ?_⟩
  · -- The item is written over itself.
    show (session.items.insert step.item event.item)[name]? = world.items[name]?
    rw [← native.items name, same, Std.TreeMap.getElem?_insert]
    split
    case isTrue isItem => rw [← Std.LawfulEqCmp.compare_eq_iff_eq.mp isItem, known]
    case isFalse => rfl
  · show (session.putPair step.user step.target (event.user, event.target)).entities[name]? = _
    rw [same, Session.getElem?_putPair_target paired change name]
    congr 1
    funext entity
    rw [native.items] at known
    simp only [Step.wear, Step.refreshes, known, Option.any_some, change]
    by_cases isTarget : step.target = name <;> by_cases isElixir : use.item.id = elixir <;>
      simp [isTarget, isElixir]

/-- A move strikes with its power, and its user is as it was before. -/
theorem runMove_native {step : MoveStep} {pair : Entity × Entity}
    (found : session.pair step.user step.target = .ok pair) (report : StepReport) :
    Session.Wears world (.useMove step) session (runMove step report pair session).2 := by
  obtain ⟨unclaimed, made, kept⟩ := EffectChain.moveEffect_builtin session.context (step.use pair)
  rw [← native.chain] at unclaimed made kept
  -- Nothing claims the move, so that the host deals its own damage.
  have struck : strike step pair session =
      { handled := false
        hit := (nativeDamage step.power pair.2).1
        user := pair.1
        target := (nativeDamage step.power pair.2).2
        engine := (strike step pair session).engine
        context := (strike step pair session).context } := by
    have own := storeMove_usedMove step.moveId pair.1
    simp only [strike, Engine.moveEffect, show MoveUse.mk _ _ _ _ = step.use pair from rfl,
      unclaimed, made, MoveStep.landed]
    simp [MoveStep.use, own]
  have same : (strike step pair session).engine.effects = session.engine.effects := kept
  refine ⟨⟨?_, native.items⟩, fun name => ?_⟩
  · exact same.trans native.chain
  · simp only [runMove, Struck.check_user]
    rw [struck]
    exact Session.getElem?_putPair_target found (fun entity => (nativeDamage step.power entity).2) name

omit native

/-- A step of a native session makes of each entity what it makes of it by itself. -/
theorem runStep_native (native : session.Native world) {index : Nat} {step : Step}
    (ran : runStep index step session = .ok result) :
    Session.Wears world step session result.2 := by
  -- One case for each kind of step; only uses of items and of moves touch entities.
  have chain := native.chain
  cases step with
  | opcode step =>
    obtain rfl := Except.ok.inj ran
    exact ⟨⟨chain, native.items⟩, fun name => Option.map_id'.symm⟩
  | useItem step =>
    obtain ⟨use, found, rfl⟩ := runStep_useItem ran
    exact runItem_native native found _
  | useMove step =>
    obtain ⟨pair, found, rfl⟩ := runStep_useMove ran
    exact runMove_native native found _
  | specialProcess call =>
    obtain rfl := Except.ok.inj ran
    refine ⟨⟨?_, native.items⟩, fun name => Option.map_id'.symm⟩
    simp only [runProcess, Engine.handleSpecialProcess]
    -- A process of the host's own does not get as far as the chain.
    split
    · exact chain
    · simp only [Engine.specialProcess, chain, EffectChain.specialProcess_builtin]
  | menu visit =>
    obtain ⟨-, engine, context, rest⟩ := runMenu_session (runStep_menu.mp ran)
    obtain ⟨state, same⟩ := runMenu_engine (runStep_menu.mp ran)
    refine ⟨⟨by rw [same]; exact chain, ?_⟩, fun name => ?_⟩
    · rw [rest]
      exact native.items
    · rw [rest]
      exact Option.map_id'.symm

/-- Steps that are replayed to the end make of each entity what they make of it one after the other. -/
theorem runSteps_native (native : session.Native world) {index : Nat} {steps : List Step}
    (completes : (runSteps index steps session).2.2 = none) (name : String) :
    (runSteps index steps session).2.1.entities[name]? =
      session.entities[name]?.map fun entity =>
        steps.foldl (fun entity step => step.wear world.items name entity) entity := by
  induction steps generalizing index session with
  | nil => exact Option.map_id'.symm
  | cons step rest ih =>
    obtain ⟨result, ran, later⟩ := completes_cons completes
    obtain ⟨stays, entities⟩ := runStep_native native ran
    rw [runSteps_cons ran]
    -- Logging that the step is over leaves the session native.
    have native : Session.Native world (result.2.logStep result.1) := ⟨stays.chain, stays.items⟩
    have others := ih native later
    rw [show (result.2.logStep result.1).entities[name]? = _ from entities name,
      Option.map_map] at others
    exact others

end

section

variable (items : Std.TreeMap String Item) (name : String)

/-- What a step makes of a worn entity is told by its power and by whether it is an elixir. -/
theorem wear_worn (step : Step) (harm elixirs : Nat) (entity : Entity) :
    step.wear items name (worn harm elixirs entity) =
      worn (harm + step.harm name) (elixirs + if step.refreshes items name then 1 else 0)
        entity := by
  -- A step does either damage or an elixir's work, or nothing.
  cases step with
  | useItem step =>
    simp only [Step.wear, Step.harm, Nat.add_zero]
    split
    · exact refreshed_worn harm elixirs entity
    · rfl
  | useMove step =>
    simp only [Step.wear, Step.harm, Step.refreshes]
    split
    · exact nativeDamage_worn step.power harm elixirs entity
    · rfl
  | opcode _ | specialProcess _ | menu _ => rfl

/-- So what steps make of an entity is told by two totals. -/
theorem foldl_wear (steps : List Step) (harm elixirs : Nat) (entity : Entity) :
    steps.foldl (fun entity step => step.wear items name entity) (worn harm elixirs entity) =
      worn (harm + (steps.map (·.harm name)).foldr (· + ·) 0)
        (elixirs + steps.countP (·.refreshes items name)) entity := by
  -- The totals so far are carried along, and each step adds to them.
  induction steps generalizing harm elixirs with
  | nil => rfl
  | cons step rest ih =>
    rw [List.foldl_cons, wear_worn, ih, List.map_cons, List.foldr_cons, List.countP_cons]
    congr 1 <;> omega

end

namespace Scenario

/-- The exact sum of all positive powers with which the entity of a name is struck. -/
def harm (scenario : Scenario) (name : String) : Nat :=
  (scenario.steps.map (·.harm name)).foldr (· + ·) 0

/-- The number of elixirs that are used on the entity of a name. -/
def elixirs (scenario : Scenario) (name : String) : Nat :=
  scenario.steps.countP (·.refreshes scenario.world.items name)

end Scenario

/-- A monster after some damage and some elixirs, told in exact numbers. -/
structure Wears (before after : Monster) (harm elixirs : Nat) : Prop where
  hp : after.hp.toInt = max 0 (before.hp.toInt - harm)
  slots : after.moves.length = before.moves.length
  /-- Uses are filled up to the maximum, unless there are more of them already. -/
  pp : ∀ (slot : Nat) (move : Move), before.moves[slot]? = some move →
    ∃ pp : UInt8, after.moves[slot]? = some { move with pp } ∧
      pp.toNat = if move.pp ≤ move.maxPp then min (move.pp.toNat + 10 * elixirs) move.maxPp.toNat
        else move.pp.toNat
  others : after = { before with hp := after.hp, moves := after.moves }

/-- The report of a native replay tells what two totals make of each entity. -/
structure Report.Tallies (report : Report) (scenario : Scenario) : Prop where
  names : report.entities.map (·.1) = scenario.world.entities.keys
  monster : ∀ (name : String) (entity after : Entity) (monster : Monster),
    scenario.world.entities[name]? = some entity → (name, after) ∈ report.entities →
    entity.monster = some monster → 0 ≤ monster.hp →
    ∃ left, after.monster = some left ∧
      Wears monster left (scenario.harm name) (scenario.elixirs name) ∧
      (after.valid = true ↔
        entity.valid = true ∧ ¬ (0 < scenario.harm name ∧ left.hp = 0))
  /-- What is no monster is neither struck nor refreshed. -/
  thing : ∀ (name : String) (entity after : Entity),
    scenario.world.entities[name]? = some entity → (name, after) ∈ report.entities →
    entity.monster = none → after = entity

/-- The closed form of a monster is what its exact numbers tell, unless it began below zero. -/
theorem wears_wornMonster {monster : Monster} (natural : 0 ≤ monster.hp) (harm elixirs : Nat) :
    Wears monster (wornMonster harm elixirs monster) harm elixirs where
  hp := by
    rw [Int32.le_iff_toInt_le, Int32.toInt_zero] at natural
    rw [wornMonster, toInt_hpAfter, hpAfter]
    split <;> omega
  slots := by rw [wornMonster, List.length_map]
  pp slot move there := by
    refine ⟨(restored elixirs move).pp, ?_, ?_⟩
    · simp only [wornMonster, List.getElem?_map, there, Option.map_some]
      rfl
    · simp only [toNat_restored, restoredPp, UInt8.le_iff_toNat_le]
      rfl
  others := rfl

/-- Damage is fatal if there was any and it left no hit points. -/
theorem fatal_iff (harm elixirs : Nat) (monster : Monster) :
    fatal harm monster.hp.toInt = true ↔
      0 < harm ∧ (wornMonster harm elixirs monster).hp = 0 := by
  rw [← Int32.toInt_inj, wornMonster, toInt_hpAfter, Int32.toInt_zero, fatal]
  simp

section

variable {scenario : Scenario} {engine : Engine SimulatedHost} {context : Context SimulatedHost}
  {report : Report} (native : engine.effects = .new .builtin [])
  (completed : (replay scenario engine context).result = .ok report)

include native completed

/-- The last session of a native replay has each entity in its closed form. -/
theorem entities_native :
    ∃ last : Std.TreeMap String Entity, report.entities = last.toList ∧
      ∀ name : String, last[name]? = scenario.world.entities[name]?.map
        (worn (scenario.harm name) (scenario.elixirs name)) := by
  obtain ⟨goes, ended⟩ := replay_completed completed
  refine ⟨_, ended.entities, fun name => ?_⟩
  have starts : Session.Native scenario.world (.start engine context scenario.world) :=
    ⟨native, fun _ => rfl⟩
  rw [runSteps_native starts goes name]
  show scenario.world.entities[name]?.map _ = _
  congr 1
  funext entity
  -- At the start, the totals are zero.
  have total := foldl_wear scenario.world.items name scenario.steps 0 0 entity
  rw [worn_zero, Nat.zero_add, Nat.zero_add] at total
  exact total

/-- So its report tallies. -/
theorem report_tallies : report.Tallies scenario := by
  obtain ⟨last, listed, closed⟩ := entities_native native completed
  -- What is reported under a name is the closed form of what the world has there.
  have reported {name : String} {entity after : Entity}
      (known : scenario.world.entities[name]? = some entity)
      (member : (name, after) ∈ report.entities) :
      after = worn (scenario.harm name) (scenario.elixirs name) entity := by
    rw [listed, Std.TreeMap.mem_toList_iff_getElem?_eq_some, closed, known] at member
    exact (Option.some.inj member).symm
  refine ⟨(report_covers context completed).entities, ?_, ?_⟩
  · intro name entity after monster known member held natural
    obtain rfl := reported known member
    have wears := wears_wornMonster natural (scenario.harm name) (scenario.elixirs name)
    simp only [worn, held]
    refine ⟨_, rfl, wears, ?_⟩
    rw [← fatal_iff, Bool.and_eq_true, Bool.not_eq_true', Bool.not_eq_true]
  · intro name entity after known member bare
    obtain rfl := reported known member
    simp only [worn, bare]

/-- The same steps in another order leave the same entities, whatever else the engine has and wherever they are replayed. -/
theorem entities_perm {order : List Step} (same : order.Perm scenario.steps)
    {other : Engine SimulatedHost} (native' : other.effects = .new .builtin [])
    {context' : Context SimulatedHost} {report' : Report}
    (completed' : (replay { scenario with steps := order } other context').result = .ok report') :
    report'.entities = report.entities := by
  obtain ⟨last, listed, closed⟩ := entities_native native completed
  obtain ⟨last', listed', closed'⟩ := entities_native native' completed'
  rw [listed, listed']
  -- Both maps have the same entities, since totals do not depend on the order.
  refine (Std.TreeMap.Equiv.of_forall_constGet?_eq fun name => ?_).toList_eq
  have harm : Scenario.harm { scenario with steps := order } name = scenario.harm name :=
    (same.map _).foldr_eq' (fun first _ second _ total => Nat.add_left_comm second first total) 0
  have elixirs : Scenario.elixirs { scenario with steps := order } name = scenario.elixirs name :=
    same.countP_eq _
  rw [closed', closed, harm, elixirs]

omit native in
/-- If the menus return, the steps can be replayed to the end in any order. -/
theorem replay_perm (returns : engine.menus.Returns) {order : List Step}
    (same : order.Perm scenario.steps) :
    ∃ report', (replay { scenario with steps := order } engine context).result = .ok report' := by
  refine replay_of_named context returns fun step member => ?_
  rcases scenario.named_or_firstMisnamed with named | ⟨index, cause, first⟩
  · exact named step (same.mem_iff.mp member)
  · -- With wrong names, the replay would not have completed.
    have stopped := (replay_firstMisnamed context returns first).1
    rw [completed] at stopped
    contradiction

/-- A native replay leaves of each entity what two totals of the steps tell, and so the same in whatever order they come. -/
theorem native_run_tallies :
    report.Tallies scenario ∧ ∀ order : List Step, order.Perm scenario.steps →
      (∀ (other : Engine SimulatedHost) (context' : Context SimulatedHost) (report' : Report),
        other.effects = .new .builtin [] →
        (replay { scenario with steps := order } other context').result = .ok report' →
        report'.entities = report.entities) ∧
      (engine.menus.Returns →
        ∃ report', (replay { scenario with steps := order } engine context).result = .ok report') :=
  ⟨report_tallies native completed, fun _ same =>
    ⟨fun _ _ _ native' completed' => entities_perm native completed same native' completed',
      fun returns => replay_perm completed returns same⟩⟩

end

/-- A foe with an almost empty move and an overfull one is struck and refreshed in turn, and struck back. -/
def skirmish : Scenario where
  name := "skirmish"
  world :=
    { entities := Std.TreeMap.ofList
        [("hero", Entity.ofMonster { hp := 30, maxHp := 30, moves := [⟨5, 2, 35⟩] }),
          ("foe", Entity.ofMonster { hp := 20, maxHp := 20, moves := [⟨5, 3, 15⟩, ⟨45, 41, 40⟩] })]
      items := Std.TreeMap.ofList [("elixir", ({ id := elixir, quantity := 2 } : Item))] }
  steps :=
    let refresh : Step := .useItem { user := "hero", target := "foe", item := "elixir" }
    [.useMove { user := "hero", target := "foe", moveId := 5, power := 12 }, refresh,
      .useMove { user := "foe", target := "hero", moveId := 45, power := -4 }, refresh,
      .useMove { user := "hero", target := "foe", moveId := 5, power := 9 }]

/-- The foe takes 21 in all, and two elixirs; backwards, the skirmish leaves the same. -/
theorem skirmish_tallies :
    let engine : Engine SimulatedHost := .new {}
    let context : Context SimulatedHost := { host := skirmish.world.host }
    skirmish.harm "foe" = 21 ∧ skirmish.elixirs "foe" = 2 ∧ skirmish.harm "hero" = 0 ∧
      ∃ report backwards, (replay skirmish engine context).result = .ok report ∧
        report.Tallies skirmish ∧
        (replay { skirmish with steps := skirmish.steps.reverse } engine context).result =
          .ok backwards ∧
        backwards.entities = report.entities := by
  intro engine context
  refine ⟨by decide, by decide +kernel, by decide, ?_⟩
  have completes : (replay skirmish engine context).result.toOption.isSome = true := by
    decide +kernel
  cases completed : (replay skirmish engine context).result with
  | error stop =>
    rw [completed] at completes
    contradiction
  | ok report =>
    obtain ⟨tallies, orders⟩ := native_run_tallies rfl completed
    obtain ⟨same, completes'⟩ := orders skirmish.steps.reverse (List.reverse_perm _)
    obtain ⟨backwards, ran⟩ := completes' (MenuMachine.builtin_returns _)
    exact ⟨report, backwards, rfl, tallies, ran, same engine context backwards rfl ran⟩

end Replay

end DungeonHooks
