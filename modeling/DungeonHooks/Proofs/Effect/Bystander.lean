import DungeonHooks.Proofs.Effect.FirstClaim
import DungeonHooks.Proofs.Effect.Spoken

/-! Bystanders: resolvers that decline whatever they are asked and do nothing to the host. -/

namespace DungeonHooks

variable {σ ε μ : Type}

/-- The handler declined, has left event and host alone, and remembers something with a property. -/
structure Handled.Idle (remembers : μ → Prop) (cx : Context σ) (event : ε)
    (handled : Handled σ μ ε) : Prop where
  claimed : handled.claimed = false
  event : handled.event = event
  host : handled.context.host = cx.host
  memory : remembers handled.memory

/-- The resolver has remembered nothing that could make it do anything at all, and never will. -/
def Resolver.Bystander (resolver : Resolver σ) : Prop :=
  ∃ remembers : resolver.Memory → Prop, remembers resolver.memory ∧
    ∀ memory, remembers memory → ∀ cx,
      (∀ thrown use, (resolver.onItem thrown memory cx use).Idle remembers cx use) ∧
      (∀ use, (resolver.onMove memory cx use).Idle remembers cx use) ∧
      ∀ call value, (resolver.onProcess call memory cx value).Idle remembers cx value

/-- The resolver declined, has left event and host alone, and is still a bystander. -/
structure Verdict.Idle (cx : Context σ) (event : ε) (verdict : Verdict σ ε) : Prop where
  claimed : verdict.claimed = false
  event : verdict.event = event
  host : verdict.context.host = cx.host
  resolver : verdict.resolver.Bystander

/-- The question is one that bystanders have nothing to say to. -/
def Idling (ask : Resolver σ → Context σ → ε → Verdict σ ε) : Prop :=
  ∀ resolver, resolver.Bystander → ∀ cx event, (ask resolver cx event).Idle cx event

namespace Resolver

/-- A bystander has nothing to say to the use of an item. -/
theorem idling_item (thrown : Bool) : Idling (σ := σ) (item thrown) := by
  rintro resolver ⟨remembers, now, always⟩ cx use
  obtain ⟨claimed, event, host, later⟩ := (always _ now cx).1 thrown use
  exact ⟨claimed, event, host, remembers, later, always⟩

/-- A bystander has nothing to say to the use of a move. -/
theorem idling_move : Idling (σ := σ) move := by
  rintro resolver ⟨remembers, now, always⟩ cx use
  obtain ⟨claimed, event, host, later⟩ := (always _ now cx).2.1 use
  exact ⟨claimed, event, host, remembers, later, always⟩

/-- A bystander has nothing to say to a special process. -/
theorem idling_process (call : ProcessCall) : Idling (σ := σ) (process call) := by
  rintro resolver ⟨remembers, now, always⟩ cx value
  obtain ⟨claimed, event, host, later⟩ := (always _ now cx).2.2 call value
  exact ⟨claimed, event, host, remembers, later, always⟩

end Resolver

/-- The longer chain is the other one with a bystander behind it. -/
def EffectChain.Beside (longer chain : EffectChain σ) : Prop :=
  ∃ extra : Resolver σ, extra.Bystander ∧ longer = chain.append extra

/-- A conclusion is only told to the journal. -/
theorem EffectChain.conclude_host (cx : Context σ) (category : Category)
    (said : Option (Severity × String)) : (conclude cx category said).host = cx.host := by
  cases said <;> rfl

/-- The same became of an event on the same host, but for a bystander behind the chain. -/
structure Resolved.Beside (longer resolved : Resolved σ ε) : Prop where
  handled : longer.handled = resolved.handled
  event : longer.event = resolved.event
  chain : longer.chain.Beside resolved.chain
  host : longer.context.host = resolved.context.host

section

variable [Host σ] {ask : Resolver σ → Context σ → ε → Verdict σ ε} {longer chain : EffectChain σ}
  {cx other : Context σ}

/-- What a chain settles on the same host with a bystander behind it. -/
structure Settlement.Beside (longer settled : Settlement σ ε) : Prop where
  claimant : longer.claimant = settled.claimant
  event : longer.event = settled.event
  resolvers : ∃ extra : Resolver σ, extra.Bystander ∧
    longer.resolvers = settled.resolvers ++ [extra]
  host : longer.context.host = settled.context.host

/-- A bystander behind resolvers that only talk to their host changes nothing that they settle. -/
theorem consult_beside {resolvers : List (Resolver σ)} {extra : Resolver σ}
    (bystands : extra.Bystander) (asking : Asking (fun _ => True) ask) (idling : Idling ask)
    (talk : ∀ resolver ∈ resolvers, resolver.Talks fun _ => True) (same : cx.host = other.host)
    (event : ε) :
    (consult ask (resolvers ++ [extra]) cx event).Beside (consult ask resolvers other event) := by
  -- The others have the same host, whatever the bystander has written to the journal.
  obtain ⟨said, host⟩ := (consult_spoken asking talk event).respects respected_eq same
  simp only [Settlement.split, Prod.mk.injEq] at said host
  obtain ⟨claimant, left, asked⟩ := said
  rw [consult_append]
  generalize consult ask resolvers cx event = before at claimant left asked host ⊢
  dsimp only
  split
  case isTrue => exact ⟨claimant, left, ⟨extra, bystands, congrArg (· ++ [extra]) asked⟩, host⟩
  case isFalse unclaimed =>
    -- Nobody claimed, so that the bystander is asked, and declines.
    have nobody : before.claimant = none := by simpa using unclaimed
    have idle := idling extra bystands before.context before.event
    simp only [consult, idle.claimed, Bool.false_eq_true, if_false]
    exact ⟨nobody.symm.trans claimant, idle.event.trans left,
      ⟨_, idle.resolver, congrArg (· ++ [_]) asked⟩, idle.host.trans host⟩

/-- With a bystander behind it, a chain that only talks to its host does the same. -/
theorem EffectChain.Beside.resolve (beside : longer.Beside chain)
    (asking : Asking (fun _ => True) ask) (idling : Idling ask)
    (talks : chain.Talks fun _ => True) (same : cx.host = other.host) (category : Category)
    (announced : String) (concluded : Option String → ε → Option (Severity × String)) (event : ε) :
    (longer.resolve ask category announced concluded cx event).Beside
      (chain.resolve ask category announced concluded other event) := by
  obtain ⟨extra, bystands, rfl⟩ := beside
  have start : (cx.info category announced).host = (other.info category announced).host := same
  obtain ⟨claimant, left, ⟨later, bystands, resolvers⟩, host⟩ :=
    consult_beside bystands asking idling talks start event
  refine ⟨congrArg Option.isSome claimant, left, ⟨later, bystands, ?_⟩, ?_⟩
  · exact congrArg EffectChain.mk resolvers
  · -- Announcement and conclusion are entries of the journal.
    simp only [EffectChain.resolve, conclude_host]
    exact host

section Events

variable (beside : longer.Beside chain) (talks : chain.Talks fun _ => True)
  (same : cx.host = other.host)

include beside talks same

/-- The same becomes of the use of an item. -/
theorem EffectChain.Beside.itemEffect (thrown : Bool) (use : ItemUse) :
    (longer.itemEffect thrown cx use).Beside (chain.itemEffect thrown other use) := by
  unfold EffectChain.itemEffect
  exact beside.resolve (Resolver.asking_item thrown) (Resolver.idling_item thrown) talks same
    _ _ _ _

/-- The same becomes of the use of a move. -/
theorem EffectChain.Beside.moveEffect (use : MoveUse) :
    (longer.moveEffect cx use).Beside (chain.moveEffect other use) := by
  unfold EffectChain.moveEffect
  exact beside.resolve Resolver.asking_move Resolver.idling_move talks same _ _ _ _

/-- The same becomes of a special process. -/
theorem EffectChain.Beside.specialProcess (call : ProcessCall) :
    (longer.specialProcess cx call).Beside (chain.specialProcess other call) := by
  have resolved : (longer.resolveProcess cx call).Beside (chain.resolveProcess other call) := by
    unfold EffectChain.resolveProcess
    exact beside.resolve (Resolver.asking_process call) (Resolver.idling_process call) talks same
      _ _ _ _
  -- The value depends on what was resolved.
  refine ⟨resolved.handled, ?_, resolved.chain, resolved.host⟩
  simp only [EffectChain.specialProcess, resolved.handled, resolved.event]

end Events

end

end DungeonHooks
