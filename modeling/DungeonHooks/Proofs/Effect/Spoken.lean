import DungeonHooks.Effect.Chain
import DungeonHooks.Proofs.Host.Spoken

/-! A chain of resolvers that only talk to their host does no more than that either. -/

namespace DungeonHooks

universe u v

variable {σ : Type} [Host σ] {ε μ : Type} {allowed : Request → Prop}

/-- What a handler left behind, with the context apart. -/
def Handled.split (handled : Handled σ μ ε) : (Bool × ε × μ) × Context σ :=
  ((handled.claimed, handled.event, handled.memory), handled.context)

/-- What a resolver left behind, with the context apart. -/
def Verdict.split (verdict : Verdict σ ε) : (Bool × ε × Resolver σ) × Context σ :=
  ((verdict.claimed, verdict.event, verdict.resolver), verdict.context)

/-- What a chain left behind, with the context apart. -/
def Settlement.split (settled : Settlement σ ε) :
    (Option String × ε × List (Resolver σ)) × Context σ :=
  ((settled.claimant, settled.event, settled.resolvers), settled.context)

/-- What became of an event, with the context apart. -/
def Resolved.split (resolved : Resolved σ ε) : (Bool × ε × EffectChain σ) × Context σ :=
  ((resolved.handled, resolved.event, resolved.chain), resolved.context)

/-- The handlers of the resolver only talk to their host, whatever they remember. -/
structure Resolver.Talks (allowed : Request → Prop) (resolver : Resolver σ) : Prop where
  item : ∀ thrown memory use,
    Spoken allowed fun cx => (resolver.onItem thrown memory cx use).split
  move : ∀ memory use, Spoken allowed fun cx => (resolver.onMove memory cx use).split
  process : ∀ call memory value,
    Spoken allowed fun cx => (resolver.onProcess call memory cx value).split

/-- The question is one that talking resolvers answer by talking, and then still talk. -/
structure Asking (allowed : Request → Prop)
    (ask : Resolver σ → Context σ → ε → Verdict σ ε) : Prop where
  spoken : ∀ {resolver : Resolver σ}, resolver.Talks allowed → ∀ event,
    Spoken allowed fun cx => (ask resolver cx event).split
  keeps : ∀ {resolver : Resolver σ}, resolver.Talks allowed → ∀ cx event,
    (ask resolver cx event).resolver.Talks allowed
  named : ∀ (resolver : Resolver σ) (cx : Context σ) (event : ε),
    (ask resolver cx event).resolver.name = resolver.name

namespace Resolver

/-- A resolver talks in the same way whatever it remembers. -/
theorem Talks.remembers {resolver : Resolver σ} (talks : resolver.Talks allowed)
    (memory : resolver.Memory) : Talks allowed { resolver with memory } where
  item := talks.item
  move := talks.move
  process := talks.process

/-- Running a handler that talks is talking, and keeps the resolver talking. -/
theorem ask_spoken {resolver : Resolver σ}
    {handler : resolver.Memory → Context σ → ε → Handled σ resolver.Memory ε} {event : ε}
    (talks : Spoken allowed fun cx => (handler resolver.memory cx event).split) :
    Spoken allowed fun cx => (resolver.ask handler cx event).split :=
  talks.map fun (claimed, event, memory) => (claimed, event, { resolver with memory })

/-- Asking about an item use is such a question. -/
theorem asking_item (thrown : Bool) : Asking (σ := σ) allowed (item thrown) where
  spoken talks use := ask_spoken (talks.item thrown _ use)
  keeps talks _ _ := talks.remembers _
  named _ _ _ := rfl

/-- Asking about a move use is such a question. -/
theorem asking_move : Asking (σ := σ) allowed move where
  spoken talks use := ask_spoken (talks.move _ use)
  keeps talks _ _ := talks.remembers _
  named _ _ _ := rfl

/-- Asking about a special process is such a question. -/
theorem asking_process (call : ProcessCall) : Asking (σ := σ) allowed (process call) where
  spoken talks value := ask_spoken (talks.process call _ value)
  keeps talks _ _ := talks.remembers _
  named _ _ _ := rfl

end Resolver

section Consult

variable {ask : Resolver σ → Context σ → ε → Verdict σ ε} {resolvers : List (Resolver σ)}

/-- Asking talking resolvers in turn is talking. -/
theorem consult_spoken (asking : Asking allowed ask)
    (talk : ∀ resolver ∈ resolvers, resolver.Talks allowed) (event : ε) :
    Spoken allowed fun cx => (consult ask resolvers cx event).split := by
  induction resolvers generalizing event with
  | nil => exact .still (none, event, [])
  | cons resolver rest ih =>
    have others : ∀ other ∈ rest, other.Talks allowed := fun other member =>
      talk other (List.mem_cons_of_mem _ member)
    -- The first verdict decides whether the rest of the chain is asked at all.
    let goOn : Bool × ε × Resolver σ → Context σ →
        (Option String × ε × List (Resolver σ)) × Context σ := fun (claimed, event, asked) cx =>
      if claimed then ((some asked.name, event, asked :: rest), cx)
      else
        let later := consult ask rest cx event
        ((later.claimant, later.event, asked :: later.resolvers), later.context)
    have goesOn : ∀ verdict, Spoken allowed (goOn verdict) := by
      rintro ⟨claimed, event, asked⟩
      cases claimed with
      | false =>
        exact (ih others event).map fun (claimant, event, later) =>
          (claimant, event, asked :: later)
      | true => exact .still (some asked.name, event, asked :: rest)
    refine ((asking.spoken (talk resolver (by simp)) event).andThen goesOn).of_eq fun cx => ?_
    simp only [consult, Verdict.split, goOn]
    cases claimed : (ask resolver cx event).claimed <;> simp [Settlement.split, asking.named]

omit [Host σ] in
/-- What holds of resolvers whatever they remember still holds after they were asked. -/
theorem consult_resolvers {holds : Resolver σ → Prop}
    (keeps : ∀ {resolver}, holds resolver → ∀ cx event, holds (ask resolver cx event).resolver)
    (all : ∀ resolver ∈ resolvers, holds resolver) (cx : Context σ) (event : ε) :
    ∀ resolver ∈ (consult ask resolvers cx event).resolvers, holds resolver := by
  induction resolvers generalizing cx event with
  | nil => simp [consult]
  | cons resolver rest ih =>
    obtain ⟨first, others⟩ := List.forall_mem_cons.mp all
    unfold consult
    dsimp only
    split
    -- A claim leaves the rest of the chain unasked.
    · exact List.forall_mem_cons.mpr ⟨keeps first cx event, others⟩
    · exact List.forall_mem_cons.mpr ⟨keeps first cx event, ih others _ _⟩

/-- Resolvers that talk still do after they were asked. -/
theorem consult_talks (asking : Asking allowed ask)
    (talk : ∀ resolver ∈ resolvers, resolver.Talks allowed) (cx : Context σ) (event : ε) :
    ∀ resolver ∈ (consult ask resolvers cx event).resolvers, resolver.Talks allowed :=
  -- A resolver that was asked differs in what it remembers only.
  consult_resolvers asking.keeps talk cx event

end Consult

namespace EffectChain

/-- All resolvers of the chain only talk to their host. -/
def Talks (allowed : Request → Prop) (chain : EffectChain σ) : Prop :=
  ∀ resolver ∈ chain.resolvers, resolver.Talks allowed

variable {chain : EffectChain σ}

/-- A conclusion is journalled if there is one. -/
theorem conclude_spoken {category : Category}
    (journals : ∀ severity message, allowed (.record category severity message))
    (said : Option (Severity × String)) :
    Spoken allowed fun cx : Context σ => ((), conclude cx category said) := by
  -- Without a conclusion there is nothing to say.
  cases said with
  | none => exact .still ()
  | some entry => exact Spoken.record category entry.1 entry.2 (journals _ _)

/-- Resolving an event is talking: it is announced, put to the chain, and concluded. -/
theorem resolve_spoken {ask : Resolver σ → Context σ → ε → Verdict σ ε}
    (asking : Asking allowed ask) (talks : chain.Talks allowed) {category : Category}
    (journals : ∀ severity message, allowed (.record category severity message))
    (announced : String)
    (concluded : Option String → ε → Option (Severity × String)) (event : ε) :
    Spoken allowed fun cx =>
      (chain.resolve ask category announced concluded cx event).split := by
  have announces := Spoken.record (σ := σ) category .info announced (journals _ _)
  -- The conclusion depends on what the chain left.
  exact (announces.andThen fun _ => consult_spoken asking talks event).andThen fun settled =>
    (conclude_spoken journals (concluded settled.1 settled.2.1)).map fun _ =>
      (settled.1.isSome, settled.2.1, EffectChain.mk settled.2.2)

/-- A chain that talks still does after it resolved an event. -/
theorem resolve_talks {ask : Resolver σ → Context σ → ε → Verdict σ ε}
    (asking : Asking allowed ask) (talks : chain.Talks allowed) (category : Category)
    (announced : String) (concluded : Option String → ε → Option (Severity × String))
    (cx : Context σ) (event : ε) :
    (chain.resolve ask category announced concluded cx event).chain.Talks allowed :=
  -- Announcement and conclusion leave the resolvers as the consultation left them.
  consult_talks asking talks _ event

section Events

variable (talks : chain.Talks allowed)

include talks

/-- A chain that talks still does after an item use. -/
theorem Talks.itemEffect (thrown : Bool) (cx : Context σ) (use : ItemUse) :
    (chain.itemEffect thrown cx use).chain.Talks allowed :=
  resolve_talks (Resolver.asking_item thrown) talks _ _ _ _ _

/-- A chain that talks still does after a move use. -/
theorem Talks.moveEffect (cx : Context σ) (use : MoveUse) :
    (chain.moveEffect cx use).chain.Talks allowed :=
  resolve_talks Resolver.asking_move talks _ _ _ _ _

/-- A chain that talks still does after a special process. -/
theorem Talks.specialProcess (cx : Context σ) (call : ProcessCall) :
    (chain.specialProcess cx call).chain.Talks allowed :=
  show (chain.resolveProcess cx call).chain.Talks allowed from
    resolve_talks (Resolver.asking_process call) talks _ _ _ _ _

/-- Resolving an item use is talking. -/
theorem Talks.itemEffect_spoken
    (journals : ∀ severity message, allowed (.record .effects severity message)) (thrown : Bool)
    (use : ItemUse) : Spoken allowed fun cx => (chain.itemEffect thrown cx use).split :=
  resolve_spoken (Resolver.asking_item thrown) talks journals _ _ _

/-- Resolving a move use is talking. -/
theorem Talks.moveEffect_spoken
    (journals : ∀ severity message, allowed (.record .effects severity message)) (use : MoveUse) :
    Spoken allowed fun cx => (chain.moveEffect cx use).split :=
  resolve_spoken Resolver.asking_move talks journals _ _ _

/-- Putting a special process to the chain is talking. -/
theorem Talks.resolveProcess_spoken
    (journals : ∀ severity message, allowed (.record .specialProcess severity message))
    (call : ProcessCall) : Spoken allowed fun cx => (chain.resolveProcess cx call).split :=
  resolve_spoken (Resolver.asking_process call) talks journals _ _ _

/-- Resolving a special process is talking, too. -/
theorem Talks.specialProcess_spoken
    (journals : ∀ severity message, allowed (.record .specialProcess severity message))
    (call : ProcessCall) : Spoken allowed fun cx => (chain.specialProcess cx call).split :=
  (talks.resolveProcess_spoken journals call).map fun (handled, value, chain) =>
    (handled, ProcessOutcome.mk handled (if handled then value else 0), chain)

end Events

end EffectChain

end DungeonHooks
