import DungeonHooks.Proofs.Effect.Bystander
import DungeonHooks.Proofs.Replay.Alike

/-! A bystander in a replay: nothing is seen of it but its name and its entries in the journal. -/

namespace DungeonHooks.Replay

/-- The session with another chain of resolvers, in another context. -/
def Session.beside (session : Session) (effects : EffectChain SimulatedHost)
    (context : Context SimulatedHost) : Session :=
  { session with engine := { session.engine with effects }, context }

/-- The first session has a bystander behind the chain of the second; besides, journal and log may differ, but not the host. -/
structure Shadowed (session other : Session) : Prop where
  chain : session.engine.effects.Beside other.engine.effects
  host : session.context.host = other.context.host
  rest : session = other.beside session.engine.effects session.context

section

variable {session : Session} {effects : EffectChain SimulatedHost}
  {context : Context SimulatedHost} (chain : effects.Beside session.engine.effects)
  (host : context.host = session.context.host)
  (talks : session.engine.Talks fun _ => True) (report : StepReport)

include chain host talks

/-- An opcode is not put to the chain, so no resolver has a part in it. -/
theorem runOpcode_shadowed (step : OpcodeStep) :
    Reported Shadowed (runOpcode step report (session.beside effects context))
      (runOpcode step report session) := by
  obtain ⟨said, host⟩ :=
    (answerOpcode_spoken talks step fun _ _ => trivial).respects respected_eq host
  -- Settings and instructions are the same in both sessions.
  change ((answerOpcode step (session.beside effects context)).1,
    (answerOpcode step (session.beside effects context)).2.1) =
      ((answerOpcode step session).1, (answerOpcode step session).2.1) at said
  obtain ⟨answer, routine⟩ := Prod.mk.inj said
  refine ⟨congrArg (step.reported report) answer, chain, host, ?_⟩
  simp only [runOpcode, routine]
  rfl

/-- The use of an item is settled by the others. -/
theorem runItem_shadowed (step : ItemStep) (use : ItemUse) :
    Reported Shadowed (runItem step report use (session.beside effects context))
      (runItem step report use session) := by
  have settled := chain.itemEffect talks.effects host step.thrown use
  unfold runItem Engine.itemEffect Session.beside
  dsimp only
  generalize effects.itemEffect step.thrown context use = resolved at settled ⊢
  generalize session.engine.effects.itemEffect step.thrown session.context use = other at settled ⊢
  -- The reports and the entities depend on what became of the use.
  obtain ⟨handled, left, chain, context⟩ := resolved
  obtain ⟨_, _, _, _⟩ := other
  obtain ⟨rfl, rfl, chain, host⟩ := settled
  exact ⟨rfl, chain, host, rfl⟩

/-- So is a special process, unless it is one of the host. -/
theorem runProcess_shadowed (call : ProcessCall) :
    Reported Shadowed (runProcess call report (session.beside effects context))
      (runProcess call report session) := by
  unfold runProcess Engine.handleSpecialProcess
  cases route : session.engine.settings.routeProcess call.id with
  | native =>
    simp only [Session.beside, route]
    exact ⟨rfl, chain, host, rfl⟩
  | custom =>
    obtain ⟨_, left, chain, host⟩ := chain.specialProcess talks.effects host call
    simp only [Session.beside, route, Engine.specialProcess, left]
    exact ⟨rfl, chain, host, rfl⟩

/-- So is a strike: it hits alike, and leaves the same user and the same target. -/
theorem strike_shadowed (step : MoveStep) (pair : Entity × Entity) :
    let struck := strike step pair (session.beside effects context)
    let other := strike step pair session
    struck.engine.effects.Beside other.engine.effects ∧
      struck.context.host = other.context.host ∧
      struck = { other with
        engine := { other.engine with effects := struck.engine.effects }
        context := struck.context } := by
  let use : MoveUse := {
    input := { moveId := step.moveId, itemId := step.itemId }
    user := pair.1
    target := pair.2
    used := usedMove step.moveId pair.1 }
  have settled := chain.moveEffect talks.effects host use
  unfold strike Engine.moveEffect Session.beside
  dsimp only
  generalize effects.moveEffect context use = resolved at settled ⊢
  generalize session.engine.effects.moveEffect session.context use = other at settled ⊢
  obtain ⟨handled, left, chain, context⟩ := resolved
  obtain ⟨_, _, _, _⟩ := other
  obtain ⟨rfl, rfl, chain, host⟩ := settled
  exact ⟨chain, host, rfl⟩

/-- So is a move, and after it the ability is checked on the same user and the same target. -/
theorem runMove_shadowed (step : MoveStep) (pair : Entity × Entity) :
    Reported Shadowed (runMove step report pair (session.beside effects context))
      (runMove step report pair session) := by
  obtain ⟨chain, host, same⟩ := strike_shadowed chain host talks step pair
  unfold runMove
  generalize strike step pair (session.beside effects context) = struck at chain host same ⊢
  generalize strike step pair session = other at chain host same ⊢
  generalize struck.engine.effects = effects at chain same
  generalize struck.context = context at host same
  subst same
  -- The check asks neither the chain nor the journal.
  obtain ⟨said, host⟩ := (check_spoken (fun _ _ _ => trivial) other).respects respected_eq host
  change ((Struck.check { other with
      engine := { other.engine with effects }, context }).1, (Struck.check { other with
      engine := { other.engine with effects }, context }).2.1) =
    (other.check.1, other.check.2.1) at said
  obtain ⟨boosted, user⟩ := Prod.mk.inj said
  dsimp only
  rw [boosted, user]
  exact ⟨rfl, chain, host, rfl⟩

end

/-- Shadowed sessions share their host and their menus. -/
theorem Shadowed.shared : MenusShared fun session other =>
    Shadowed session other ∧ other.Talks where
  host := fun ⟨shadowed, _⟩ => shadowed.host
  menus := fun ⟨shadowed, _⟩ => congrArg (·.engine.menus) shadowed.rest
  talks := fun ⟨shadowed, talks⟩ => by
    rw [shadowed.rest]
    exact talks.menus
  call := by
    rintro session other ⟨⟨chain, _, rest⟩, talks⟩ machine _ cx cx' rfl table same
    generalize session.engine.effects = effects at chain rest
    generalize session.context = context at rest
    subst rest
    refine ⟨⟨chain, same, rfl⟩, ⟨talks.handlers.effects, talks.handlers.instructions⟩, ?_⟩
    -- The menus are the same ones in another state.
    intro descriptor member
    rw [table] at member
    exact talks.menus descriptor member

/-- A step goes the same in a shadowed session, or stops for the same reason. -/
theorem runStep_shadowed (index : Nat) (step : Step) {session other : Session}
    (alike : Shadowed session other ∧ other.Talks) :
    Together (Reported fun session other => Shadowed session other ∧ other.Talks)
      (runStep index step session) (runStep index step other) := by
  obtain ⟨⟨chain, host, rest⟩, talks⟩ := alike
  generalize session.engine.effects = effects at chain rest
  generalize session.context = context at host rest
  subst rest
  have goes {result result' : StepReport × Session}
      (ran : runStep index step other = .ok result') (reported : Reported Shadowed result result') :
      Together (Reported fun session other => Shadowed session other ∧ other.Talks)
        (.ok result : Except Stop _) (.ok result') :=
    .went ⟨reported.report, reported.sessions, runStep_talks talks ran⟩
  cases step with
  | opcode step => exact goes rfl (runOpcode_shadowed chain host talks.handlers _ step)
  | useItem step =>
    have same : (other.beside effects context).itemUse step = other.itemUse step := rfl
    simp only [runStep, same] at goes ⊢
    cases found : other.itemUse step with
    | error cause => exact .stopped _
    | ok use =>
      rw [found] at goes
      exact goes rfl (runItem_shadowed chain host talks.handlers _ step use)
  | useMove step =>
    have same : (other.beside effects context).pair step.user step.target =
      other.pair step.user step.target := rfl
    simp only [runStep, same] at goes ⊢
    cases found : other.pair step.user step.target with
    | error cause => exact .stopped _
    | ok pair =>
      rw [found] at goes
      exact goes rfl (runMove_shadowed chain host talks.handlers _ step pair)
  | specialProcess call => exact goes rfl (runProcess_shadowed chain host talks.handlers _ call)
  | menu step =>
    have shadowed : Shadowed (other.beside effects context) other := ⟨chain, host, rfl⟩
    exact (runMenu_together Shadowed.shared step _ ⟨shadowed, talks⟩).mapError Stop.halted

/-- The reports agree on all but the names of the resolvers and the journal. -/
def Report.Agrees (report other : Report) : Prop :=
  { report with resolvers := other.resolvers, journal := other.journal } = other

/-- A bystander behind the chain changes nothing of what comes of a replay, whatever the journal holds at the start. -/
theorem replay_beside (scenario : Scenario) {engine : Engine SimulatedHost}
    (handlers : engine.Talks fun _ => True) (menus : engine.menus.Talks fun _ => True)
    {extra : Resolver SimulatedHost} (bystands : extra.Bystander)
    {context other : Context SimulatedHost} (host : context.host = other.host) :
    Together Report.Agrees
      (replay scenario { engine with effects := engine.effects.append extra } context).result
      (replay scenario engine other).result := by
  let beside : Engine SimulatedHost := { engine with effects := engine.effects.append extra }
  have start : Shadowed (.start beside context scenario.world)
      (.start engine other scenario.world) := ⟨⟨extra, bystands, rfl⟩, host, rfl⟩
  have talks : (Session.start engine other scenario.world).Talks := ⟨handlers, menus⟩
  -- That a step is over is only logged.
  obtain ⟨told, ⟨shadowed, _⟩, ended⟩ := runSteps_together runStep_shadowed
    (fun report session other ⟨⟨chain, host, rest⟩, talks⟩ =>
      ⟨⟨chain, host, congrArg (Session.logStep · report) rest⟩, ⟨talks.handlers, talks.menus⟩⟩)
    0 scenario.steps ⟨start, talks⟩
  unfold replay
  generalize runSteps 0 scenario.steps (.start beside context scenario.world) = ran
    at told shadowed ended
  generalize runSteps 0 scenario.steps (.start engine other scenario.world) = ran'
    at told shadowed ended
  obtain ⟨reports, session, stop⟩ := ran
  obtain ⟨reports', last, stop'⟩ := ran'
  obtain rfl : reports = reports' := told
  obtain rfl : stop = stop' := ended
  cases stop with
  | some stop => exact .stopped stop
  | none =>
    obtain ⟨_, host, rest⟩ := shadowed
    dsimp only at host rest ⊢
    rw [show session.entities = last.entities by rw [rest]; rfl,
      show session.items = last.items by rw [rest]; rfl, host]
    exact .went rfl

end DungeonHooks.Replay
