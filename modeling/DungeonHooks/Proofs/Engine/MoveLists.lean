import DungeonHooks.Engine
import DungeonHooks.Proofs.Effect.Spoken
import DungeonHooks.Proofs.Script.WriteBack

/-! Move lists keep their length: handlers may change the moves of a user, but not how many there are. -/

namespace DungeonHooks

/-- The number of moves in the list of an entity, if it has one. -/
def Entity.moveCount (entity : Entity) : Option Nat :=
  entity.monster.map (·.moves.length)

namespace Script

/-- An entity is written back with as many moves. -/
theorem EntityBack.moveCount {left : Store} {table : Nat} {entity changed : Entity}
    (back : EntityBack left table entity changed) : changed.moveCount = entity.moveCount := by
  obtain ⟨_, before⟩ := entity
  obtain ⟨_, after⟩ := changed
  -- There is a monster on both sides, or on neither.
  have presence := back.presence
  cases before <;> cases after
  case none.none => rfl
  case none.some => contradiction
  case some.none => contradiction
  case some.some before after =>
    have ids := congrArg List.length (back.monster before after rfl rfl).ids
    rw [List.length_map, List.length_map] at ids
    exact congrArg some ids

end Script

variable {σ : Type}

/-- The handler for moves leaves as many in the user's list, whatever the resolver remembers. -/
def Resolver.KeepsMoves (resolver : Resolver σ) : Prop :=
  ∀ memory cx use, (resolver.onMove memory cx use).event.user.moveCount = use.user.moveCount

/-- A script leaves as many: what it claims is taken back, and all else stays as it was. -/
theorem Script.onMove_moveCount [Host σ] (script : Script) (cx : Context σ) (use : MoveUse) :
    (script.onMove cx use).event.user.moveCount = use.user.moveCount := by
  have outcome : AllOrNothing (moveMatter use) script cx use (script.onMove cx use) :=
    (moveMatter use).allOrNothing script cx use
  cases claimed : (script.onMove cx use).claimed with
  | false => rw [(outcome.nothing claimed).1]
  | true =>
    obtain ⟨changed, claims⟩ := outcome.claimed_iff.mp claimed
    have event := (outcome.all changed claims).1
    obtain ⟨_, left, -, -, user, _, _, -, taken, -⟩ := claims
    rw [event]
    exact (readEntity_back taken).moveCount

/-- The built-in table has no handler for moves. -/
theorem LocalEffects.builtin_keepsMoves [Host σ] :
    (LocalEffects.builtin : LocalEffects σ).resolver.KeepsMoves := by
  intro memory cx use
  simp [resolver, builtin, Handled.declined]

/-- Resolvers that are asked about a move in turn leave as many moves. -/
theorem consult_moveCount {resolvers : List (Resolver σ)}
    (keep : ∀ resolver ∈ resolvers, resolver.KeepsMoves) (cx : Context σ) (use : MoveUse) :
    (consult Resolver.move resolvers cx use).event.user.moveCount = use.user.moveCount := by
  induction resolvers generalizing cx use with
  | nil => rfl
  | cons resolver rest ih =>
    obtain ⟨first, others⟩ := List.forall_mem_cons.mp keep
    have same : (resolver.move cx use).event.user.moveCount = use.user.moveCount := first ..
    unfold consult
    dsimp only
    split
    · exact same
    · exact (ih others _ _).trans same

namespace Engine

/-- All resolvers of the engine leave as many moves. -/
def KeepsMoves (engine : Engine σ) : Prop :=
  ∀ resolver ∈ engine.effects.resolvers, resolver.KeepsMoves

variable {engine : Engine σ}

/-- A move is used by someone who has as many moves after it. -/
theorem KeepsMoves.moveEffect_moveCount (keeps : engine.KeepsMoves) (cx : Context σ)
    (use : MoveUse) :
    (engine.moveEffect cx use).2.1.user.moveCount = use.user.moveCount :=
  consult_moveCount keeps _ use

/-- After the use of an item, the resolvers are still those. -/
theorem KeepsMoves.itemEffect (keeps : engine.KeepsMoves) (thrown : Bool) (cx : Context σ)
    (use : ItemUse) : (engine.itemEffect thrown cx use).2.2.1.KeepsMoves :=
  consult_resolvers (fun keeps _ _ => keeps) keeps _ use

/-- After the use of a move, the resolvers are still those. -/
theorem KeepsMoves.moveEffect (keeps : engine.KeepsMoves) (cx : Context σ) (use : MoveUse) :
    (engine.moveEffect cx use).2.2.1.KeepsMoves :=
  consult_resolvers (fun keeps _ _ => keeps) keeps _ use

/-- After a special process, the resolvers are still those. -/
theorem KeepsMoves.handleSpecialProcess (keeps : engine.KeepsMoves) (cx : Context σ)
    (call : ProcessCall) : (engine.handleSpecialProcess cx call).2.1.KeepsMoves := by
  unfold Engine.handleSpecialProcess
  -- The chain is asked only about a process that is not the host's own.
  cases engine.settings.routeProcess call.id with
  | native => exact keeps
  | custom => exact consult_resolvers (fun keeps _ _ => keeps) keeps _ 0

/-- The built-in effects and any scripts leave as many moves. -/
theorem program_keepsMoves [Host σ] (settings : Settings) (scripts : List Script) :
    (Engine.new settings .builtin (scripts.map Script.resolver) : Engine σ).KeepsMoves := by
  refine List.forall_mem_cons.mpr ⟨LocalEffects.builtin_keepsMoves, fun resolver member => ?_⟩
  obtain ⟨script, -, rfl⟩ := List.mem_map.mp member
  exact fun memory => Script.onMove_moveCount memory

end Engine

end DungeonHooks
