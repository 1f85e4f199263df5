import DungeonHooks.Effect.Local

/-! The chain of resolvers: asked in order, and the first to claim an event settles it. -/

namespace DungeonHooks

/-- What became of asking a whole chain. -/
structure Settlement (σ ε : Type) : Type 1 where
  /-- The name of the resolver that claimed. -/
  claimant : Option String
  event : ε
  resolvers : List (Resolver σ)
  context : Context σ

/-- Asks the resolvers in turn, each on what the one before left, until one claims. -/
def consult {σ ε : Type} (ask : Resolver σ → Context σ → ε → Verdict σ ε) :
    List (Resolver σ) → Context σ → ε → Settlement σ ε
  | [], context, event => { claimant := none, event, resolvers := [], context }
  | resolver :: rest, context, event =>
    let verdict := ask resolver context event
    if verdict.claimed then
      { claimant := some resolver.name
        event := verdict.event
        resolvers := verdict.resolver :: rest
        context := verdict.context }
    else
      -- What was changed in declining is what the next resolver sees.
      let later := consult ask rest verdict.context verdict.event
      { later with resolvers := verdict.resolver :: later.resolvers }

/-- The resolvers of a runtime; the local table is always the first. -/
structure EffectChain (σ : Type) : Type 1 where
  resolvers : List (Resolver σ)

/-- An event after the chain has seen it, with the chain and the context as they are then. -/
structure Resolved (σ ε : Type) : Type 1 where
  handled : Bool
  event : ε
  chain : EffectChain σ
  context : Context σ

namespace EffectChain

variable {σ : Type}

/-- The chain of a local table and the resolvers asked after it. -/
def new (effects : LocalEffects σ) (secondary : List (Resolver σ)) : EffectChain σ :=
  { resolvers := effects.resolver :: secondary }

/-- The names of the resolvers, in the order they are asked. -/
def names (chain : EffectChain σ) : List String :=
  chain.resolvers.map (·.name)

/-- Journals what is to be said of an outcome, if anything is. -/
def conclude (cx : Context σ) (category : Category) : Option (Severity × String) → Context σ
  | none => cx
  | some (severity, message) => cx.record category severity message

/-- Announces an event, asks the chain about it, and journals what is to be said of the outcome. -/
def resolve {ε : Type} (chain : EffectChain σ)
    (ask : Resolver σ → Context σ → ε → Verdict σ ε) (category : Category) (announced : String)
    (concluded : Option String → ε → Option (Severity × String)) (cx : Context σ) (event : ε) :
    Resolved σ ε :=
  let settled := consult ask chain.resolvers (cx.info category announced) event
  -- The event is handled if anyone claimed it, whatever the claim changed.
  { handled := settled.claimant.isSome
    event := settled.event
    chain := ⟨settled.resolvers⟩
    context := conclude settled.context category (concluded settled.claimant settled.event) }

/-- Resolves an item use. Unhandled, it is left to the host's own effect. -/
def itemEffect (chain : EffectChain σ) (thrown : Bool) (cx : Context σ) (use : ItemUse) :
    Resolved σ ItemUse :=
  let concluded (claimant : Option String) (use : ItemUse) : Option (Severity × String) :=
    claimant.map fun name => (.info, s!"Item effect {use.item.id} handled by {name}")
  chain.resolve (Resolver.item thrown) .effects s!"Running item effect {use.item.id}" concluded cx
    use

/-- Resolves a move use. Unhandled, it is left to the host's own effect. -/
def moveEffect (chain : EffectChain σ) (cx : Context σ) (use : MoveUse) : Resolved σ MoveUse :=
  let concluded (claimant : Option String) (use : MoveUse) : Option (Severity × String) :=
    let { moveId, dealtDamage, .. } := use.input
    claimant.map fun name =>
      (.info, s!"Move effect {moveId} handled by {name} (dealt damage: {dealtDamage})")
  chain.resolve Resolver.move .effects s!"Running move effect {use.input.moveId}" concluded cx use

/-- Puts a special process to the chain. The host has none of its own, so an unhandled one is reported. -/
def resolveProcess (chain : EffectChain σ) (cx : Context σ) (call : ProcessCall) :
    Resolved σ Int32 :=
  let announced :=
    s!"Running special process {call.id} (arg1={call.first.toInt}, arg2={call.second.toInt})"
  let concluded (claimant : Option String) (_ : Int32) : Option (Severity × String) :=
    if claimant.isSome then none else some (.warn, s!"Unhandled special process ID {call.id}")
  chain.resolve (Resolver.process call) .specialProcess announced concluded cx 0

/-- Resolves a special process. Unhandled, it has the value 0, whatever a resolver made of it. -/
def specialProcess (chain : EffectChain σ) (cx : Context σ) (call : ProcessCall) :
    Resolved σ ProcessOutcome :=
  let resolved := chain.resolveProcess cx call
  { resolved with
    event :=
      { handled := resolved.handled, value := if resolved.handled then resolved.event else 0 } }

end EffectChain

end DungeonHooks
