import DungeonHooks.Proofs.Replay.Steps

/-! The names of entities and items in a replay: no step changes them, nor what it does not name. -/

namespace DungeonHooks.Replay

/-- The step is the use of an item or a move by or on the entity of the name. -/
def Step.NamesEntity (name : String) : Step → Prop
  | .useItem step => name = step.user ∨ name = step.target
  | .useMove step => name = step.user ∨ name = step.target
  | .opcode _ | .specialProcess _ | .menu _ => False

/-- The step is a use of the item of the name. -/
def Step.NamesItem (name : String) : Step → Prop
  | .useItem step => name = step.item
  | .opcode _ | .useMove _ | .specialProcess _ | .menu _ => False

/-- The place of a report in a replay: its number, and the kind of its step. -/
def StepReport.place (report : StepReport) : Nat × String :=
  (report.index, report.kind)

/-- A key that is written again stays where it is. -/
theorem keys_insert {α : Type} {map : Std.TreeMap String α} {key : String} (known : key ∈ map)
    (value : α) : (map.insert key value).keys = map.keys := by
  -- The keys are the same, and they stand in order in both maps.
  refine List.Perm.eq_of_pairwise ?_ Std.TreeMap.ordered_keys Std.TreeMap.ordered_keys ?_
  · exact fun _ _ _ _ before after => absurd after (Std.OrientedCmp.not_lt_of_lt before)
  refine (List.perm_ext_iff_of_nodup Std.TreeMap.nodup_keys Std.TreeMap.nodup_keys).mpr ?_
  intro name
  rw [Std.TreeMap.mem_keys, Std.TreeMap.mem_keys, Std.TreeMap.mem_insert,
    Std.LawfulEqCmp.compare_eq_iff_eq]
  exact ⟨fun member => member.elim (fun same => same ▸ known) id, .inr⟩

namespace Session

variable {session : Session} {user target : String}

/-- A pair that is found is made of two different entities. -/
theorem getElem?_of_pair {pair : Entity × Entity}
    (found : session.pair user target = .ok pair) :
    user ≠ target ∧ session.entities[user]? = some pair.1 ∧
      session.entities[target]? = some pair.2 := by
  unfold Session.pair at found
  split at found
  · contradiction
  case isFalse differ =>
    split at found
    case h_1 | h_2 => contradiction
    case h_3 known known' =>
      cases found
      exact ⟨mt beq_iff_eq.mpr differ, known', known⟩

/-- The use of an item is the item that it names, and the two entities. -/
theorem itemUse_eq (step : ItemStep) :
    session.itemUse step = match session.items[step.item]? with
      | none => .error (.unknownItem step.item)
      | some item => (session.pair step.user step.target).map fun pair =>
        { user := pair.1, target := pair.2, item } := by
  unfold itemUse
  cases session.items[step.item]? with
  -- Without the item, nobody is looked up.
  | none => rfl
  | some item => cases session.pair step.user step.target <;> rfl

/-- The use of an item that is found is made of what the step names. -/
theorem getElem?_of_itemUse {step : ItemStep} {use : ItemUse}
    (found : session.itemUse step = .ok use) :
    session.items[step.item]? = some use.item ∧
      session.pair step.user step.target = .ok (use.user, use.target) := by
  rw [itemUse_eq] at found
  split at found
  · contradiction
  case h_2 item known =>
    cases paired : session.pair step.user step.target with
    | error cause => simp [paired, Except.map] at found
    | ok pair =>
      rw [paired] at found
      obtain rfl := Except.ok.inj found
      exact ⟨known, rfl⟩

/-- A pair that is written back leaves the names as they are. -/
theorem keys_putPair {before : Entity × Entity} (found : session.pair user target = .ok before)
    (pair : Entity × Entity) :
    (session.putPair user target pair).entities.keys = session.entities.keys := by
  obtain ⟨-, userKnown, targetKnown⟩ := getElem?_of_pair found
  have userThere : user ∈ session.entities :=
    Std.TreeMap.mem_iff_isSome_getElem?.mpr (Option.isSome_of_eq_some userKnown)
  -- The user is written first, after which the target is still there.
  have targetThere : target ∈ session.entities.insert user pair.1 :=
    Std.TreeMap.mem_insert.mpr
      (.inr (Std.TreeMap.mem_iff_isSome_getElem?.mpr (Option.isSome_of_eq_some targetKnown)))
  exact (keys_insert targetThere pair.2).trans (keys_insert userThere pair.1)

/-- A pair that is written back leaves all others alone. -/
theorem getElem?_putPair {name : String} (other : ¬ (name = user ∨ name = target))
    (pair : Entity × Entity) :
    (session.putPair user target pair).entities[name]? = session.entities[name]? := by
  obtain ⟨notUser, notTarget⟩ := not_or.mp other
  simp only [putPair, Std.TreeMap.getElem?_insert, Std.LawfulEqCmp.compare_eq_iff_eq,
    if_neg (Ne.symm notUser), if_neg (Ne.symm notTarget)]

end Session

/-- What the replay of some steps leaves alone: all names, what no step named, and the list of menus. -/
structure Session.Passes (steps : List Step) (before after : Session) : Prop where
  entities : after.entities.keys = before.entities.keys
  items : after.items.keys = before.items.keys
  entity : ∀ name, (∀ step ∈ steps, ¬ step.NamesEntity name) →
    after.entities[name]? = before.entities[name]?
  item : ∀ name, (∀ step ∈ steps, ¬ step.NamesItem name) → after.items[name]? = before.items[name]?
  menus : after.engine.menus.table = before.engine.menus.table

/-- What two replays in a row leave alone is what each of them does. -/
theorem Session.Passes.cons {step : Step} {rest : List Step} {before between after : Session}
    (first : Session.Passes [step] before between) (later : Session.Passes rest between after) :
    Session.Passes (step :: rest) before after where
  entities := later.entities.trans first.entities
  items := later.items.trans first.items
  -- A name that is in none of the steps is neither in the first one nor in the others.
  entity name unnamed := by
    obtain ⟨own, others⟩ := List.forall_mem_cons.mp unnamed
    exact (later.entity name others).trans (first.entity name (by simpa using own))
  item name unnamed := by
    obtain ⟨own, others⟩ := List.forall_mem_cons.mp unnamed
    exact (later.item name others).trans (first.item name (by simpa using own))
  menus := later.menus.trans first.menus

section

variable {session : Session} {index : Nat} {step : Step} {result : StepReport × Session}

/-- Polling a menu changes nothing of the session but its engine and its context. -/
theorem pollMenu_session {visit : MenuVisit} {report : StepReport} {frames : Nat}
    (ran : pollMenu visit report session frames = .ok result) :
    result.1.place = report.place ∧
      ∃ engine context, result.2 = { session with engine, context } := by
  induction frames generalizing session with
  | zero =>
    obtain rfl := Except.ok.inj ran
    exact ⟨rfl, _, _, rfl⟩
  | succ frames ih =>
    cases answer : (session.engine.menus.step visit.menu session.context).answer with
    | error halt =>
      rw [pollMenu_halted report frames answer] at ran
      contradiction
    | ok polled =>
      rw [pollMenu_succ report frames answer] at ran
      split at ran
      · obtain rfl := Except.ok.inj ran
        exact ⟨rfl, _, _, rfl⟩
      · -- The later polls change engine and context once more.
        obtain ⟨place, engine, context, rest⟩ := ih ran
        exact ⟨place, engine, context, rest⟩

/-- Neither does the whole visit of a menu. -/
theorem runMenu_session {visit : MenuVisit} {report : StepReport}
    (ran : runMenu visit report session = .ok result) :
    result.1.place = report.place ∧
      ∃ engine context, result.2 = { session with engine, context } := by
  rcases runMenu_cases ran with ⟨error, _, rfl⟩ | ⟨_, polled⟩
  · exact ⟨rfl, _, _, rfl⟩
  · obtain ⟨place, engine, context, rest⟩ := pollMenu_session polled
    exact ⟨place, engine, context, rest⟩

/-- A step is reported under its own number and kind. -/
theorem runStep_place (ran : runStep index step session = .ok result) :
    result.1.place = (index, step.kind) := by
  cases step with
  | opcode step =>
    obtain rfl := Except.ok.inj ran
    simp only [runOpcode]
    -- Every answer is reported in the same place.
    rcases (answerOpcode step session).1 with error | _ | answer <;> rfl
  | useItem step =>
    obtain ⟨use, -, rfl⟩ := runStep_useItem ran
    rfl
  | useMove step =>
    obtain ⟨pair, -, rfl⟩ := runStep_useMove ran
    rfl
  | specialProcess call =>
    obtain rfl := Except.ok.inj ran
    simp only [runProcess]
    cases (session.engine.handleSpecialProcess session.context call).1 <;> rfl
  | menu visit => exact (runMenu_session (runStep_menu.mp ran)).1

/-- No step changes the list of menus. -/
theorem runStep_menus (ran : runStep index step session = .ok result) :
    result.2.engine.menus.table = session.engine.menus.table := by
  cases kind : step.isMenu with
  | false =>
    have continues : Continues (fun _ => True) session.engine result.2.engine :=
      runStep_continues kind ran
    rw [continues.menus]
  | true =>
    cases step with
    | menu visit =>
      -- Only the state of the menus changes.
      obtain ⟨state, engine⟩ := runMenu_engine (runStep_menu.mp ran)
      rw [engine]
      rfl
    | _ => cases kind

/-- The replay of a step leaves alone what the step does not name. -/
theorem runStep_passes (ran : runStep index step session = .ok result) :
    Session.Passes [step] session result.2 := by
  have menus := runStep_menus ran
  cases step with
  | opcode step =>
    obtain rfl := Except.ok.inj ran
    exact ⟨rfl, rfl, fun _ _ => rfl, fun _ _ => rfl, menus⟩
  | useItem step =>
    obtain ⟨use, found, rfl⟩ := runStep_useItem ran
    obtain ⟨known, paired⟩ := Session.getElem?_of_itemUse found
    have there : step.item ∈ session.items :=
      Std.TreeMap.mem_iff_isSome_getElem?.mpr (Option.isSome_of_eq_some known)
    have alone (name : String) (unnamed : ∀ other ∈ [Step.useItem step], ¬ other.NamesItem name)
        (item : Item) : (session.items.insert step.item item)[name]? = session.items[name]? := by
      have differ : name ≠ step.item := unnamed _ (List.mem_singleton.mpr rfl)
      rw [Std.TreeMap.getElem?_insert, if_neg]
      rw [Std.LawfulEqCmp.compare_eq_iff_eq]
      exact differ.symm
    refine ⟨Session.keys_putPair paired _, keys_insert there _, fun name unnamed => ?_, ?_, menus⟩
    · exact @Session.getElem?_putPair session _ _ name
        (unnamed _ (List.mem_singleton.mpr rfl)) _
    · exact fun name unnamed => alone name unnamed _
  | useMove step =>
    obtain ⟨pair, found, rfl⟩ := runStep_useMove ran
    refine ⟨Session.keys_putPair found _, rfl, fun name unnamed => ?_, fun _ _ => rfl, menus⟩
    exact Session.getElem?_putPair (unnamed _ (List.mem_singleton.mpr rfl)) _
  | specialProcess call =>
    obtain rfl := Except.ok.inj ran
    exact ⟨rfl, rfl, fun _ _ => rfl, fun _ _ => rfl, menus⟩
  | menu visit =>
    obtain ⟨-, engine, context, rest⟩ := runMenu_session (runStep_menu.mp ran)
    rw [rest] at menus ⊢
    exact ⟨rfl, rfl, fun _ _ => rfl, fun _ _ => rfl, menus⟩

/-- What completed steps name is all that their replay may change, and their reports are numbered in a row. -/
theorem runSteps_passes {steps : List Step}
    (completes : (runSteps index steps session).2.2 = none) :
    Session.Passes steps session (runSteps index steps session).2.1 ∧
      (runSteps index steps session).1.map (·.place) =
        steps.mapIdx fun place step => (index + place, step.kind) := by
  induction steps generalizing index session with
  | nil => exact ⟨⟨rfl, rfl, fun _ _ => rfl, fun _ _ => rfl, rfl⟩, rfl⟩
  | cons step rest ih =>
    obtain ⟨result, ran, later⟩ := completes_cons completes
    obtain ⟨passes, places⟩ := ih later
    rw [runSteps_cons ran]
    -- That the step is over is told to the log, and to nothing else.
    have first : Session.Passes [step] session (result.2.logStep result.1) := by
      obtain ⟨entities, items, entity, item, menus⟩ := runStep_passes ran
      exact ⟨entities, items, entity, item, menus⟩
    refine ⟨first.cons passes, ?_⟩
    rw [List.map_cons, runStep_place ran, places, List.mapIdx_cons]
    simp only [Nat.add_zero, Nat.add_assoc, Nat.add_comm 1]

end

end DungeonHooks.Replay
