import DungeonHooks.Proofs.Menu.Returns
import DungeonHooks.Proofs.Replay.Names

/-! Which replays are stopped: the text of the scenario decides it, whatever handlers do. -/

namespace DungeonHooks.Replay

/-- What is wrong with a user and a target, given the names of all entities. -/
def misnamedPair? (entities : List String) (user target : String) : Option Misnomer :=
  if user = target then some (.sameEntity user)
  else if target ∉ entities then some (.unknownEntity target)
  else if user ∉ entities then some (.unknownEntity user)
  else none

/-- What is wrong with the names in a step, given those of all entities and items. -/
def Step.misnomer? (entities items : List String) : Step → Option Misnomer
  | .useItem step =>
    if step.item ∉ items then some (.unknownItem step.item)
    else misnamedPair? entities step.user step.target
  | .useMove step => misnamedPair? entities step.user step.target
  -- No other step names anything.
  | .opcode _ | .specialProcess _ | .menu _ => none

namespace Session

variable {session : Session} {user target : String}

/-- Two entities are refused for what is wrong with their names. -/
theorem pair_of_misnamed {cause : Misnomer}
    (misnamed : misnamedPair? session.entities.keys user target = some cause) :
    session.pair user target = .error cause := by
  unfold misnamedPair? at misnamed
  simp only [Std.TreeMap.mem_keys] at misnamed
  unfold pair
  split at misnamed
  case isTrue same =>
    cases misnamed
    rw [if_pos (beq_iff_eq.mpr same)]
  case isFalse differ =>
    rw [if_neg (mt beq_iff_eq.mp differ)]
    -- The target is looked up first, and the user only if there is a target.
    split at misnamed
    case isTrue missing =>
      cases misnamed
      rw [Std.TreeMap.getElem?_eq_none missing]
    case isFalse known =>
      split at misnamed
      · cases misnamed
        rename_i missing
        rw [Std.TreeMap.getElem?_eq_some_getElem (Decidable.not_not.mp known),
          Std.TreeMap.getElem?_eq_none missing]
      · contradiction

/-- If nothing is wrong with them, both entities are there. -/
theorem pair_of_named (named : misnamedPair? session.entities.keys user target = none) :
    ∃ pair, session.pair user target = .ok pair := by
  -- Each of the three tests has failed, so each look-up finds what it looks for.
  unfold misnamedPair? at named
  simp only [Std.TreeMap.mem_keys] at named
  split at named
  · contradiction
  case isFalse differ =>
    split at named
    · contradiction
    case isFalse target =>
      split at named
      · contradiction
      case isFalse user =>
        unfold pair
        rw [if_neg (mt beq_iff_eq.mp differ),
          Std.TreeMap.getElem?_eq_some_getElem (Decidable.not_not.mp target),
          Std.TreeMap.getElem?_eq_some_getElem (Decidable.not_not.mp user)]
        exact ⟨_, rfl⟩

end Session

section

variable {session : Session}

/-- Polling a menu that returns does not stop the replay. -/
theorem pollMenu_returns (returns : session.engine.menus.Returns) (visit : MenuVisit)
    (report : StepReport) (frames : Nat) :
    ∃ result, pollMenu visit report session frames = .ok result := by
  -- Every poll is answered, and running out of frames is an answer as well.
  induction frames generalizing session with
  | zero => exact ⟨_, rfl⟩
  | succ frames ih =>
    obtain ⟨answer, polls⟩ :=
      MenuMachine.step_answers returns visit.menu session.context
    rw [pollMenu_succ report frames polls]
    split
    · exact ⟨_, rfl⟩
    · -- The menus of the later polls are the same ones.
      refine ih fun descriptor member => returns descriptor ?_
      rw [← MenuMachine.step_table session.engine.menus visit.menu session.context]
      exact member

/-- Neither does the whole visit of one. -/
theorem runMenu_returns (returns : session.engine.menus.Returns) (visit : MenuVisit)
    (report : StepReport) : ∃ result, runMenu visit report session = .ok result := by
  -- A menu that does not exist is an error of the step, but no reason to stop.
  obtain ⟨answer, starts⟩ := MenuMachine.start_answers returns visit.menu
    { session.context with host := session.context.host.queueInput visit.input }
  rw [runMenu_eq, Session.starting, starts]
  rcases answer with error | _
  · exact ⟨_, rfl⟩
  · refine pollMenu_returns (fun descriptor member => returns descriptor ?_) visit report _
    rw [← MenuMachine.start_table session.engine.menus visit.menu]
    exact member

/-- A step that is misnamed stops the replay for what is wrong with it. -/
theorem runStep_misnamed {step : Step} {cause : Misnomer}
    (misnamed : step.misnomer? session.entities.keys session.items.keys = some cause)
    (index : Nat) : runStep index step session = .error (.misnamed index cause) := by
  cases step with
  | useItem step =>
    simp only [Step.misnomer?, Std.TreeMap.mem_keys] at misnamed
    simp only [runStep, Session.itemUse_eq]
    -- The item is looked up before anybody else.
    split at misnamed
    case isTrue missing =>
      cases misnamed
      rw [Std.TreeMap.getElem?_eq_none missing]
    case isFalse known =>
      rw [Std.TreeMap.getElem?_eq_some_getElem (Decidable.not_not.mp known)]
      simp only [Session.pair_of_misnamed misnamed, Except.map]
  | useMove step => simp only [runStep, Session.pair_of_misnamed misnamed]
  | opcode _ | specialProcess _ | menu _ => cases misnamed

/-- Any other step is replayed, if the menus return. -/
theorem runStep_named {step : Step} (returns : session.engine.menus.Returns)
    (named : step.misnomer? session.entities.keys session.items.keys = none) (index : Nat) :
    ∃ result, runStep index step session = .ok result := by
  -- Only uses of items and of moves name anything, and only menus could halt.
  cases step with
  | opcode step => exact ⟨_, rfl⟩
  | useItem step =>
    simp only [Step.misnomer?, Std.TreeMap.mem_keys] at named
    split at named
    · contradiction
    case isFalse known =>
      obtain ⟨pair, found⟩ := Session.pair_of_named named
      simp only [runStep, Session.itemUse_eq, found, Except.map,
        Std.TreeMap.getElem?_eq_some_getElem (Decidable.not_not.mp known)]
      exact ⟨_, rfl⟩
  | useMove step =>
    obtain ⟨pair, found⟩ := Session.pair_of_named named
    simp only [runStep, found]
    exact ⟨_, rfl⟩
  | specialProcess call => exact ⟨_, rfl⟩
  | menu visit =>
    obtain ⟨result, ran⟩ := runMenu_returns returns visit { index, kind := "menu" }
    exact ⟨result, runStep_menu.mpr ran⟩

/-- Steps that are not misnamed are replayed to the end. -/
theorem runSteps_named {steps : List Step} (returns : session.engine.menus.Returns)
    (named : ∀ step ∈ steps, step.misnomer? session.entities.keys session.items.keys = none)
    (index : Nat) : (runSteps index steps session).2.2 = none := by
  induction steps generalizing index session with
  | nil => rfl
  | cons step rest ih =>
    obtain ⟨first, others⟩ := List.forall_mem_cons.mp named
    obtain ⟨result, ran⟩ := runStep_named returns first index
    have passes := runStep_passes ran
    rw [runSteps_cons ran]
    -- Names and menus are the same for the later steps, which are named by them.
    refine @ih (result.2.logStep result.1) (fun descriptor member => ?_) ?_ (index + 1)
    · exact returns descriptor (passes.menus ▸ member)
    · intro later member
      rw [show (result.2.logStep result.1).entities.keys = _ from passes.entities,
        show (result.2.logStep result.1).items.keys = _ from passes.items]
      exact others later member

end

/-- Steps that are replayed to the end hand their session on to the steps behind them. -/
theorem runSteps_append {index : Nat} {first : List Step} {session : Session}
    (completes : (runSteps index first session).2.2 = none) (later : List Step) :
    runSteps index (first ++ later) session =
      let ran := runSteps index first session
      let rest := runSteps (index + first.length) later ran.2.1
      (ran.1 ++ rest.1, rest.2) := by
  -- Each of the first steps moves to the front of all reports.
  induction first generalizing index session with
  | nil => rfl
  | cons step first ih =>
    obtain ⟨result, ran, completes⟩ := completes_cons completes
    rw [List.cons_append, runSteps_cons ran, runSteps_cons ran, ih completes]
    simp only [List.length_cons, List.cons_append, Nat.add_assoc, Nat.add_comm 1]

namespace Scenario

/-- What is wrong with the names in a step, in the world of the scenario. -/
def misnomer? (scenario : Scenario) (step : Step) : Option Misnomer :=
  step.misnomer? scenario.world.entities.keys scenario.world.items.keys

/-- The step at the index is the first one with wrong names. -/
structure FirstMisnamed (scenario : Scenario) (index : Nat) (cause : Misnomer) : Prop where
  here : scenario.steps[index]?.bind scenario.misnomer? = some cause
  before : ∀ step ∈ scenario.steps.take index, scenario.misnomer? step = none

/-- The scenario without the steps from an index on. -/
def cut (scenario : Scenario) (index : Nat) : Scenario :=
  { scenario with steps := scenario.steps.take index }

end Scenario

/-- All is left as a shorter replay leaves it, but for the journal that is not taken out. -/
structure Outcome.HeldAt (outcome shorter : Outcome) (report : Report) : Prop where
  engine : outcome.engine = shorter.engine
  context : outcome.context = { shorter.context with
    journal := { shorter.context.journal with entries := report.journal } }

/-- The report covers all steps and all names of the scenario, and what no step names is in it unchanged. -/
structure Report.Covers (report : Report) (scenario : Scenario) : Prop where
  steps : report.steps.map (·.place) =
    scenario.steps.mapIdx fun index step => (index, step.kind)
  entities : report.entities.map (·.1) = scenario.world.entities.keys
  items : report.items.map (·.1) = scenario.world.items.keys
  entity : ∀ name, (∀ step ∈ scenario.steps, ¬ step.NamesEntity name) →
    ∀ entity, (name, entity) ∈ report.entities ↔ scenario.world.entities[name]? = some entity
  item : ∀ name, (∀ step ∈ scenario.steps, ¬ step.NamesItem name) →
    ∀ item, (name, item) ∈ report.items ↔ scenario.world.items[name]? = some item

/-- What the text of a scenario decides about its replay. -/
structure Scenario.Decides (scenario : Scenario) (engine : Engine SimulatedHost)
    (context : Context SimulatedHost) : Prop where
  /-- The replay stops if any step is misnamed, and for no other reason. -/
  stops : (∃ stop, (replay scenario engine context).result = .error stop) ↔
    ∃ step ∈ scenario.steps, (scenario.misnomer? step).isSome
  /-- It names the first such step, and what is wrong with it. -/
  first : ∀ stop, (replay scenario engine context).result = .error stop ↔
    ∃ index cause, scenario.FirstMisnamed index cause ∧ stop = .misnamed index cause
  /-- Nothing is done for that step or for a later one. -/
  held : ∀ index cause, scenario.FirstMisnamed index cause →
    ∃ report, (replay (scenario.cut index) engine context).result = .ok report ∧
      (replay scenario engine context).HeldAt (replay (scenario.cut index) engine context) report
  covered : ∀ report, (replay scenario engine context).result = .ok report →
    report.Covers scenario

section

variable {scenario : Scenario} {engine : Engine SimulatedHost} (context : Context SimulatedHost)
  (returns : engine.menus.Returns)

/-- Either no step is misnamed, or there is a first one that is. -/
theorem Scenario.named_or_firstMisnamed (scenario : Scenario) :
    (∀ step ∈ scenario.steps, scenario.misnomer? step = none) ∨
      ∃ index cause, scenario.FirstMisnamed index cause := by
  cases found : scenario.steps.findIdx? fun step => (scenario.misnomer? step).isSome with
  | none =>
    refine .inl fun step member => ?_
    simpa using List.findIdx?_eq_none_iff.mp found step member
  | some index =>
    obtain ⟨inside, misnamed, earlier⟩ := List.findIdx?_eq_some_iff_getElem.mp found
    obtain ⟨cause, here⟩ := Option.isSome_iff_exists.mp misnamed
    refine .inr ⟨index, cause, by rw [List.getElem?_eq_getElem inside, Option.bind_some, here], ?_⟩
    -- Nothing before it satisfies the test.
    intro step member
    obtain ⟨place, below, rfl⟩ := List.mem_take_iff_getElem.mp member
    simpa using earlier place (by omega)

/-- The first step with wrong names is one of the steps. -/
theorem Scenario.FirstMisnamed.misnamed {index : Nat} {cause : Misnomer}
    (first : scenario.FirstMisnamed index cause) :
    ∃ step ∈ scenario.steps, (scenario.misnomer? step).isSome := by
  -- It stands at the index, which is therefore within the list.
  obtain ⟨step, there, misnamed⟩ := Option.bind_eq_some_iff.mp first.here
  exact ⟨step, List.mem_of_getElem? there, Option.isSome_of_eq_some misnamed⟩

/-- The report of a replay that completes covers the scenario. -/
theorem report_covers {report : Report}
    (completed : (replay scenario engine context).result = .ok report) :
    report.Covers scenario := by
  -- A report that was made has a whole run behind it, which passes by all that is not named.
  obtain ⟨goes, ended⟩ := replay_completed completed
  obtain ⟨passes, places⟩ := runSteps_passes goes
  refine ⟨?_, ?_, ?_, fun name unnamed entity => ?_, fun name unnamed item => ?_⟩
  · rw [ended.steps, places]
    simp only [Nat.zero_add]
  · rw [ended.entities, Std.TreeMap.map_fst_toList_eq_keys]
    exact passes.entities
  · rw [ended.items, Std.TreeMap.map_fst_toList_eq_keys]
    exact passes.items
  · rw [ended.entities, Std.TreeMap.mem_toList_iff_getElem?_eq_some, passes.entity name unnamed]
    rfl
  · rw [ended.items, Std.TreeMap.mem_toList_iff_getElem?_eq_some, passes.item name unnamed]
    rfl

include returns

/-- A replay of steps with the right names completes. -/
theorem replay_of_named (named : ∀ step ∈ scenario.steps, scenario.misnomer? step = none) :
    ∃ report, (replay scenario engine context).result = .ok report :=
  replay_completes (@runSteps_named (.start engine context scenario.world) _ returns named 0)

/-- A replay goes as far as the first step with wrong names. -/
theorem runSteps_firstMisnamed {index : Nat} {cause : Misnomer}
    (first : scenario.FirstMisnamed index cause) :
    let ran := runSteps 0 (scenario.cut index).steps (.start engine context scenario.world)
    ran.2.2 = none ∧
      runSteps 0 scenario.steps (.start engine context scenario.world) =
        (ran.1, ran.2.1, some (.misnamed index cause)) := by
  obtain ⟨here, before⟩ := first
  obtain ⟨step, there, misnamed⟩ := Option.bind_eq_some_iff.mp here
  obtain ⟨inside, rfl⟩ := List.getElem?_eq_some_iff.mp there
  have completes : (runSteps 0 (scenario.steps.take index)
      (.start engine context scenario.world)).2.2 = none :=
    @runSteps_named (.start engine context scenario.world) _ returns before 0
  refine ⟨completes, ?_⟩
  obtain ⟨passes, -⟩ := runSteps_passes completes
  -- The names are still those of the world when the step is reached.
  have stops : runStep index scenario.steps[index]
      (runSteps 0 (scenario.steps.take index) (.start engine context scenario.world)).2.1 =
        .error (.misnamed index cause) := by
    refine runStep_misnamed ?_ index
    rw [passes.entities, passes.items]
    exact misnamed
  have length : (scenario.steps.take index).length = index :=
    List.length_take_of_le (Nat.le_of_lt inside)
  -- The steps behind it are never reached.
  have split : scenario.steps = scenario.steps.take index ++
      scenario.steps[index] :: scenario.steps.drop (index + 1) := by
    rw [← List.drop_eq_getElem_cons inside, List.take_append_drop]
  rw [split, runSteps_append completes, length, Nat.zero_add]
  simp only [runSteps, stops, List.append_nil]
  rfl

/-- A replay with wrong names stops at the first of them, and leaves all as the steps before it do. -/
theorem replay_firstMisnamed {index : Nat} {cause : Misnomer}
    (first : scenario.FirstMisnamed index cause) :
    (replay scenario engine context).result = .error (.misnamed index cause) ∧
      ∃ report, (replay (scenario.cut index) engine context).result = .ok report ∧
        (replay scenario engine context).HeldAt (replay (scenario.cut index) engine context)
          report := by
  obtain ⟨completes, stops⟩ := runSteps_firstMisnamed context returns first
  -- The two replays end in the same session, and only one takes the journal out of it.
  unfold replay
  simp only [stops]
  simp only [show (scenario.cut index).world = scenario.world from rfl, completes]
  exact ⟨trivial, _, rfl, rfl, rfl⟩

/-- The text decides whether a replay stops, and where: at the first step with wrong names, before anything is done for it. -/
theorem text_decides_stop (scenario : Scenario) : scenario.Decides engine context where
  stops := by
    constructor
    · rintro ⟨stop, stopped⟩
      rcases scenario.named_or_firstMisnamed with named | ⟨index, cause, first⟩
      · obtain ⟨report, completes⟩ := replay_of_named context returns named
        rw [completes] at stopped
        contradiction
      · exact first.misnamed
    · rintro ⟨step, member, misnamed⟩
      rcases scenario.named_or_firstMisnamed with named | ⟨index, cause, first⟩
      · rw [named step member] at misnamed
        contradiction
      · exact ⟨_, (replay_firstMisnamed context returns first).1⟩
  first stop := by
    constructor
    · intro stopped
      rcases scenario.named_or_firstMisnamed with named | ⟨index, cause, first⟩
      · obtain ⟨report, completes⟩ := replay_of_named context returns named
        rw [completes] at stopped
        contradiction
      · -- There is no other way to stop than for this step.
        have stops := (replay_firstMisnamed context returns first).1
        rw [stopped] at stops
        exact ⟨index, cause, first, Except.error.inj stops⟩
    · rintro ⟨index, cause, first, rfl⟩
      exact (replay_firstMisnamed context returns first).1
  held index cause first := (replay_firstMisnamed context returns first).2
  covered report completed := report_covers context completed

end

/-- A foe is struck, an item that nobody has is used by the hero on itself, and a stranger strikes. -/
def misspelt : Scenario where
  name := "misspelt"
  world :=
    { entities := Std.TreeMap.ofList
        [("hero", Entity.ofMonster { hp := 20, maxHp := 20 }),
          ("foe", Entity.ofMonster { hp := 15, maxHp := 15 })]
      items := Std.TreeMap.ofList [("seed", ({ id := 10, quantity := 1 } : Item))] }
  steps :=
    [.useMove { user := "hero", target := "foe", moveId := 5, power := 4 },
      .useItem { user := "hero", target := "hero", item := "sede" },
      .useMove { user := "stranger", target := "foe", moveId := 5, power := 4 }]

/-- Only the item is named by the stop, and the foe is struck once. -/
theorem misspelt_stops_at_item :
    let engine : Engine SimulatedHost := .new {}
    let context : Context SimulatedHost := { host := misspelt.world.host }
    engine.menus.Returns ∧
      (replay misspelt engine context).result = .error (.misnamed 1 (.unknownItem "sede")) ∧
      ∃ report, (replay (misspelt.cut 1) engine context).result = .ok report ∧
        report.Covers (misspelt.cut 1) ∧
        (replay misspelt engine context).HeldAt (replay (misspelt.cut 1) engine context) report := by
  intro engine context
  have returns : engine.menus.Returns := MenuMachine.builtin_returns _
  have first : misspelt.FirstMisnamed 1 (.unknownItem "sede") :=
    ⟨by decide +kernel, by decide +kernel⟩
  have decides := text_decides_stop context returns misspelt
  obtain ⟨report, completed, held⟩ := decides.held 1 _ first
  -- The steps before it are a scenario of their own, which completes.
  have covered := (text_decides_stop context returns (misspelt.cut 1)).covered report completed
  exact ⟨returns, (decides.first _).mpr ⟨1, _, first, rfl⟩, report, completed, covered, held⟩

end DungeonHooks.Replay
