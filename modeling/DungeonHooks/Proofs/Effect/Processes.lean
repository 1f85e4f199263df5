import DungeonHooks.Engine
import DungeonHooks.Proofs.Effect.FirstClaim

/-! Special processes: who is asked about one, who answers it, and when it is reported that nobody did. -/

namespace DungeonHooks

variable {σ ε : Type} {ask : Resolver σ → Context σ → ε → Verdict σ ε}

/-- The verdicts of resolvers that are asked in turn, each on what the one before left. -/
def askInTurn (ask : Resolver σ → Context σ → ε → Verdict σ ε) :
    List (Resolver σ) → Context σ → ε → List (Verdict σ ε)
  | [], _, _ => []
  | resolver :: rest, cx, event =>
    let verdict := ask resolver cx event
    verdict :: askInTurn ask rest verdict.context verdict.event

/-- What the last of some verdicts left of an event. -/
def eventAfter (event : ε) (verdicts : List (Verdict σ ε)) : ε :=
  (verdicts.getLast?.map (·.event)).getD event

/-- The first verdict leaves the event on which the others are given. -/
@[simp] theorem eventAfter_cons (event : ε) (verdict : Verdict σ ε) (rest : List (Verdict σ ε)) :
    eventAfter event (verdict :: rest) = eventAfter verdict.event rest := by
  -- Only a list of one verdict ends in that verdict itself.
  cases rest with
  | nil => rfl
  | cons next rest => simp [eventAfter, List.getLast?_cons]

/-- Resolvers that all decline leave a chain without a claimant. -/
theorem consult_of_declined {resolvers : List (Resolver σ)} {cx : Context σ} {event : ε}
    (decline : AllDecline (askInTurn ask resolvers cx event)) :
    let declined := askInTurn ask resolvers cx event
    consult ask resolvers cx event =
      { claimant := none
        event := eventAfter event declined
        resolvers := declined.map (·.resolver)
        context := contextAfter cx declined } := by
  induction resolvers generalizing cx event with
  | nil => rfl
  | cons resolver rest ih =>
    obtain ⟨first, others⟩ := List.forall_mem_cons.mp decline
    -- The first verdict is handed on to the rest of the chain.
    simp only [consult, first, Bool.false_eq_true, if_false, ih others, askInTurn,
      contextAfter_cons, eventAfter_cons, List.map_cons]

/-- The first resolver that claims settles an event, and those behind it are not asked. -/
theorem consult_of_claimed {earlier later : List (Resolver σ)} {claimant : Resolver σ}
    {cx : Context σ} {event : ε} (decline : AllDecline (askInTurn ask earlier cx event)) :
    let declined := askInTurn ask earlier cx event
    let verdict := ask claimant (contextAfter cx declined) (eventAfter event declined)
    verdict.claimed = true →
      consult ask (earlier ++ claimant :: later) cx event =
        { claimant := some claimant.name
          event := verdict.event
          resolvers := declined.map (·.resolver) ++ verdict.resolver :: later
          context := verdict.context } := by
  intro declined verdict claims
  rw [consult_append, consult_of_declined decline]
  simp only [Option.isSome_none, Bool.false_eq_true, if_false, consult]
  rw [if_pos claims]

/-- Either all resolvers decline, or there is a first one that claims. -/
theorem declined_or_claimed (resolvers : List (Resolver σ)) (cx : Context σ) (event : ε) :
    AllDecline (askInTurn ask resolvers cx event) ∨
      ∃ earlier claimant later, resolvers = earlier ++ claimant :: later ∧
        let declined := askInTurn ask earlier cx event
        AllDecline declined ∧
          (ask claimant (contextAfter cx declined) (eventAfter event declined)).claimed = true := by
  induction resolvers generalizing cx event with
  | nil => exact .inl nofun
  | cons resolver rest ih =>
    cases claims : (ask resolver cx event).claimed with
    | true => exact .inr ⟨[], resolver, rest, rfl, nofun, claims⟩
    | false =>
      -- The first one declines, so that the rest decides.
      rcases ih (ask resolver cx event).context (ask resolver cx event).event with
        others | ⟨earlier, claimant, later, split, decline, claimed⟩
      · exact .inl (List.forall_mem_cons.mpr ⟨claims, others⟩)
      · refine .inr ⟨resolver :: earlier, claimant, later, by rw [split, List.cons_append],
          List.forall_mem_cons.mpr ⟨claims, decline⟩, ?_⟩
        simpa only [askInTurn, contextAfter_cons, eventAfter_cons] using claimed

/-- A chain is without a claimant exactly if all its resolvers decline. -/
theorem consult_unclaimed_iff {resolvers : List (Resolver σ)} {cx : Context σ} {event : ε} :
    (consult ask resolvers cx event).claimant.isSome = false ↔
      AllDecline (askInTurn ask resolvers cx event) := by
  refine ⟨fun unclaimed => ?_, fun decline => by rw [consult_of_declined decline]; rfl⟩
  have decided : AllDecline (askInTurn ask resolvers cx event) ∨ _ :=
    declined_or_claimed resolvers cx event
  rcases decided with decline | ⟨earlier, claimant, later, rfl, decline, claims⟩
  · exact decline
  · -- Whoever claims is the claimant.
    rw [consult_of_claimed decline claims] at unclaimed
    contradiction

/-- The chain's entry for a special process. -/
def ProcessCall.announced (call : ProcessCall) : String :=
  s!"Running special process {call.id} (arg1={call.first.toInt}, arg2={call.second.toInt})"

/-- The chain's warning about a special process that nobody claimed. -/
def ProcessCall.unhandled (call : ProcessCall) : String :=
  s!"Unhandled special process ID {call.id}"

/-- The verdicts on a special process of resolvers that are asked in turn, all with the same call. -/
def ProcessCall.verdicts (call : ProcessCall) (resolvers : List (Resolver σ)) (cx : Context σ) :
    List (Verdict σ Int32) :=
  askInTurn (Resolver.process call) resolvers (cx.info .specialProcess call.announced) 0

/-- The context that resolvers leave that were asked about a special process. -/
def ProcessCall.heard (call : ProcessCall) (resolvers : List (Resolver σ)) (cx : Context σ) :
    Context σ :=
  contextAfter (cx.info .specialProcess call.announced) (call.verdicts resolvers cx)

/-- The verdict of a resolver that is asked about a special process after some others. -/
def ProcessCall.verdictAfter (call : ProcessCall) (earlier : List (Resolver σ))
    (claimant : Resolver σ) (cx : Context σ) : Verdict σ Int32 :=
  claimant.process call (call.heard earlier cx) (eventAfter 0 (call.verdicts earlier cx))

/-- What an engine makes of a special process, said of its resolvers one by one. -/
structure ProcessAnswered (engine : Engine σ) (cx : Context σ) (call : ProcessCall) : Prop where
  /-- Below the threshold it is left to the host: nobody is asked, and nothing is told or changed. -/
  native : call.id < engine.settings.specialProcessThreshold →
    engine.handleSpecialProcess cx call = (none, engine, cx)
  /-- From there on, either nobody claims it or there is a first one who does. -/
  custom : AllDecline (call.verdicts engine.effects.resolvers cx) ∨
    ∃ earlier claimant later, engine.effects.resolvers = earlier ++ claimant :: later ∧
      AllDecline (call.verdicts earlier cx) ∧
        (call.verdictAfter earlier claimant cx).claimed = true
  /-- The first to claim it gives the value. Those behind are not asked, and the chain tells no more. -/
  claimed : engine.settings.specialProcessThreshold ≤ call.id →
    ∀ earlier claimant later, engine.effects.resolvers = earlier ++ claimant :: later →
      AllDecline (call.verdicts earlier cx) →
        let verdict := call.verdictAfter earlier claimant cx
        verdict.claimed = true →
          let asked := (call.verdicts earlier cx).map (·.resolver) ++ [verdict.resolver]
          engine.handleSpecialProcess cx call =
            (some verdict.event, { engine with effects := ⟨asked ++ later⟩ }, verdict.context)
  /-- If nobody does, the value is 0, and the chain's warning is the last thing told. -/
  unclaimed : engine.settings.specialProcessThreshold ≤ call.id →
    AllDecline (call.verdicts engine.effects.resolvers cx) →
      let asked := (call.verdicts engine.effects.resolvers cx).map (·.resolver)
      engine.handleSpecialProcess cx call =
        (some 0, { engine with effects := ⟨asked⟩ },
          (call.heard engine.effects.resolvers cx).warn .specialProcess call.unhandled)

namespace Engine

variable {engine : Engine σ} {call : ProcessCall}

/-- A process below the threshold is left to the host. -/
theorem handleSpecialProcess_native (below : call.id < engine.settings.specialProcessThreshold)
    (cx : Context σ) : engine.handleSpecialProcess cx call = (none, engine, cx) := by
  -- The id is looked at before anything else.
  simp only [handleSpecialProcess, Settings.routeProcess, if_neg (UInt32.not_le.mpr below)]

/-- A process from the threshold on is what came of asking the chain. -/
theorem handleSpecialProcess_custom (reached : engine.settings.specialProcessThreshold ≤ call.id)
    {cx : Context σ} {settled : Settlement σ Int32}
    (consulted : consult (Resolver.process call) engine.effects.resolvers
      (cx.info .specialProcess call.announced) 0 = settled) :
    engine.handleSpecialProcess cx call =
      (some (if settled.claimant.isSome then settled.event else 0),
        { engine with effects := ⟨settled.resolvers⟩ },
        if settled.claimant.isSome then settled.context
          else settled.context.warn .specialProcess call.unhandled) := by
  -- Only an unclaimed process is concluded with an entry.
  have chained : engine.effects.specialProcess cx call =
      { handled := settled.claimant.isSome
        event :=
          { handled := settled.claimant.isSome
            value := if settled.claimant.isSome then settled.event else 0 }
        chain := ⟨settled.resolvers⟩
        context := EffectChain.conclude settled.context .specialProcess
          (if settled.claimant.isSome then none else some (.warn, call.unhandled)) } := by
    rw [← consulted]
    rfl
  simp only [handleSpecialProcess, Settings.routeProcess, if_pos reached, specialProcess, chained]
  cases settled.claimant.isSome <;> rfl

/-- Every special process is answered, be it by the host, by the first to claim it, or by a warning. -/
theorem processAnswered (engine : Engine σ) (cx : Context σ) (call : ProcessCall) :
    ProcessAnswered engine cx call where
  native below := handleSpecialProcess_native below cx
  custom := declined_or_claimed engine.effects.resolvers _ 0
  claimed := by
    intro reached earlier claimant later split decline verdict claims asked
    have settled : consult (Resolver.process call) (earlier ++ claimant :: later) _ 0 = _ :=
      consult_of_claimed decline claims
    rw [← split] at settled
    rw [handleSpecialProcess_custom reached settled]
    simp only [Option.isSome_some, if_true, asked, List.append_assoc, List.singleton_append]
    rfl
  unclaimed := by
    intro reached decline asked
    exact handleSpecialProcess_custom reached (consult_of_declined decline)

end Engine

end DungeonHooks
