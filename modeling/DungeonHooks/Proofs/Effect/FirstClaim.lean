import DungeonHooks.Effect.Chain
import DungeonHooks.Host.Scripted
import DungeonHooks.Proofs.Effect.Contract

/-! The first claim decides: what a chain makes of an event is what its first claimant makes of it. -/

namespace DungeonHooks

variable {σ ε : Type} {ask : Resolver σ → Context σ → ε → Verdict σ ε}

/-- The verdicts of resolvers that are all asked about the same event, each in the context that the one before left. -/
def poll (ask : Resolver σ → Context σ → ε → Verdict σ ε) (event : ε) :
    List (Resolver σ) → Context σ → List (Verdict σ ε)
  | [], _ => []
  | resolver :: rest, cx =>
    -- Nobody is left out, and nobody sees what another made of the event.
    ask resolver cx event :: poll ask event rest (ask resolver cx event).context

/-- The context that the last of some verdicts left. -/
def contextAfter (cx : Context σ) (verdicts : List (Verdict σ ε)) : Context σ :=
  (verdicts.getLast?.map (·.context)).getD cx

/-- Every verdict declines. -/
def AllDecline (verdicts : List (Verdict σ ε)) : Prop :=
  ∀ verdict ∈ verdicts, verdict.claimed = false

instance (verdicts : List (Verdict σ ε)) : Decidable (AllDecline verdicts) :=
  inferInstanceAs (Decidable (∀ verdict ∈ verdicts, verdict.claimed = false))

/-- The first verdict leaves the context in which the others are given. -/
@[simp] theorem contextAfter_cons (cx : Context σ) (verdict : Verdict σ ε)
    (rest : List (Verdict σ ε)) :
    contextAfter cx (verdict :: rest) = contextAfter verdict.context rest := by
  -- Only a list of one verdict ends in that verdict itself.
  cases rest with
  | nil => rfl
  | cons next rest => simp [contextAfter, List.getLast?_cons]

/-- Resolvers behind others are asked only if none of those claims, and on what they left. -/
theorem consult_append (first second : List (Resolver σ)) (cx : Context σ) (event : ε) :
    consult ask (first ++ second) cx event =
      let before := consult ask first cx event
      if before.claimant.isSome then { before with resolvers := before.resolvers ++ second }
      else
        let after := consult ask second before.context before.event
        { after with resolvers := before.resolvers ++ after.resolvers } := by
  induction first generalizing cx event with
  | nil => rfl
  | cons resolver rest ih =>
    simp only [List.cons_append, consult, ih]
    cases (ask resolver cx event).claimed with
    | true => rfl
    -- The first one declined, so that all depends on the rest of the first ones.
    | false =>
      simp only [Bool.false_eq_true, if_false]
      split <;> rfl

section

variable [Host σ]

variable {event : ε} {resolvers : List (Resolver σ)}
  (clean : ∀ resolver ∈ resolvers, ∀ cx, (ask resolver cx event).Clean cx event)

include clean

/-- If all resolvers decline, the event comes out of the chain as it went in. -/
theorem consult_of_allDecline {cx : Context σ}
    (decline : AllDecline (poll ask event resolvers cx)) :
    consult ask resolvers cx event =
      { claimant := none
        event
        resolvers := (poll ask event resolvers cx).map (·.resolver)
        context := contextAfter cx (poll ask event resolvers cx) } := by
  induction resolvers generalizing cx with
  | nil => rfl
  | cons resolver rest ih =>
    obtain ⟨declines, others⟩ := List.forall_mem_cons.mp decline
    obtain ⟨first, later⟩ := List.forall_mem_cons.mp clean
    -- The next resolver is asked about the event itself, since the first one left it alone.
    have untouched : (ask resolver cx event).event = event := (first cx).event declines
    simp only [consult, declines, Bool.false_eq_true, if_false, untouched, ih later others]
    simp [poll]

/-- As long as all resolvers decline, nothing is done to the host but draws. -/
theorem onlyDrawn_of_allDecline {cx : Context σ}
    (decline : AllDecline (poll ask event resolvers cx)) :
    OnlyDrawn cx.host (contextAfter cx (poll ask event resolvers cx)).host := by
  induction resolvers generalizing cx with
  | nil => exact .refl cx.host
  | cons resolver rest ih =>
    obtain ⟨declines, others⟩ := List.forall_mem_cons.mp decline
    obtain ⟨first, later⟩ := List.forall_mem_cons.mp clean
    rw [poll, contextAfter_cons]
    exact ((first cx).host declines).trans (ih later others)

/-- A chain claims an event exactly if one of its resolvers does when all are asked about it. -/
theorem consult_claimed_iff {cx : Context σ} :
    (consult ask resolvers cx event).claimant.isSome = true ↔
      ∃ verdict ∈ poll ask event resolvers cx, verdict.claimed = true := by
  induction resolvers generalizing cx with
  | nil => simp [consult, poll]
  | cons resolver rest ih =>
    obtain ⟨first, later⟩ := List.forall_mem_cons.mp clean
    simp only [consult]
    cases claims : (ask resolver cx event).claimed with
    | true => simp [poll, claims]
    | false => simp [(first cx).event claims, ih later, poll, claims]

/-- If nobody claimed an event, all resolvers decline it. -/
theorem allDecline_of_unclaimed {cx : Context σ}
    (unclaimed : (consult ask resolvers cx event).claimant.isSome = false) :
    AllDecline (poll ask event resolvers cx) := by
  intro verdict member
  rw [← Bool.not_eq_true]
  intro claims
  have handled := (consult_claimed_iff clean).mpr ⟨verdict, member, claims⟩
  simp [handled] at unclaimed

/-- The first claim settles an event: those before it hand the event on, and those behind it never see it. -/
theorem consult_of_firstClaim {cx : Context σ} {claimant : Resolver σ} {verdict : Verdict σ ε}
    (decline : AllDecline (poll ask event resolvers cx))
    (asked : ask claimant (contextAfter cx (poll ask event resolvers cx)) event = verdict)
    (claims : verdict.claimed = true) (later : List (Resolver σ)) :
    consult ask (resolvers ++ claimant :: later) cx event =
      { claimant := some claimant.name
        event := verdict.event
        resolvers :=
          (poll ask event resolvers cx).map (·.resolver) ++ verdict.resolver :: later
        context := verdict.context } := by
  rw [consult_append, consult_of_allDecline clean decline]
  simp only [Option.isSome_none, Bool.false_eq_true, if_false, consult, asked]
  rw [if_pos claims]

/-- What nobody else claims reaches the last resolver as it was. -/
theorem consult_concat_of_allDecline {cx : Context σ} {extra : Resolver σ}
    {verdict : Verdict σ ε} (decline : AllDecline (poll ask event resolvers cx))
    (asked : ask extra (contextAfter cx (poll ask event resolvers cx)) event = verdict) :
    consult ask (resolvers ++ [extra]) cx event =
      { claimant := if verdict.claimed then some extra.name else none
        event := verdict.event
        resolvers := (poll ask event resolvers cx).map (·.resolver) ++ [verdict.resolver]
        context := verdict.context } := by
  rw [consult_append, consult_of_allDecline clean decline]
  simp only [Option.isSome_none, Bool.false_eq_true, if_false, consult, asked]
  split <;> rfl

end

/-- Puts another resolver behind all those of a chain. -/
def EffectChain.append (chain : EffectChain σ) (extra : Resolver σ) : EffectChain σ :=
  { resolvers := chain.resolvers ++ [extra] }

/-- What a chain makes of events of a kind, said of its resolvers one by one. The texts are those of the chain's own entries: the first for every event, the second for a claimed one. -/
structure FirstClaimDecides [Host σ] (chain : EffectChain σ)
    (ask : Resolver σ → Context σ → ε → Verdict σ ε)
    (resolve : EffectChain σ → Context σ → ε → Resolved σ ε) (announced : ε → String)
    (credited : String → ε → String) : Prop where
  /-- An event is handled exactly if one of the resolvers claims it. -/
  handled_iff : ∀ cx event, (resolve chain cx event).handled = true ↔
    ∃ verdict ∈ poll ask event chain.resolvers (cx.info .effects (announced event)),
      verdict.claimed = true
  /-- All is as the first claimant alone leaves it, on the event itself and where those before it left host and journal; those behind it are not asked. -/
  claimed : ∀ earlier claimant later, chain.resolvers = earlier ++ claimant :: later →
    ∀ cx event,
      let start := cx.info .effects (announced event)
      let declined := poll ask event earlier start
      let verdict := ask claimant (contextAfter start declined) event
      AllDecline declined → verdict.claimed = true →
        OnlyDrawn cx.host (contextAfter start declined).host ∧
          resolve chain cx event =
            { handled := true
              event := verdict.event
              chain := ⟨declined.map (·.resolver) ++ verdict.resolver :: later⟩
              context := verdict.context.info .effects (credited claimant.name verdict.event) }
  /-- An event that nobody claims is left alone, and nothing but draws is done to the host. -/
  unclaimed : ∀ cx event,
    let start := cx.info .effects (announced event)
    let declined := poll ask event chain.resolvers start
    AllDecline declined →
      OnlyDrawn cx.host (contextAfter start declined).host ∧
        resolve chain cx event =
          { handled := false
            event
            chain := ⟨declined.map (·.resolver)⟩
            context := contextAfter start declined }
  /-- Another resolver at the end has no part in what the others claim, and alone decides the rest. -/
  extended : ∀ extra cx event,
    let shorter := resolve chain cx event
    let verdict := ask extra shorter.context event
    (shorter.handled = true →
      resolve (chain.append extra) cx event =
        { shorter with chain := shorter.chain.append extra }) ∧
    (shorter.handled = false →
      resolve (chain.append extra) cx event =
        { handled := verdict.claimed
          event := verdict.event
          chain := shorter.chain.append verdict.resolver
          context :=
            if verdict.claimed then
              verdict.context.info .effects (credited extra.name verdict.event)
            else verdict.context })

namespace EffectChain

/-- Resolves an event of a kind, giving credit to the resolver that claims it. -/
def credit (ask : Resolver σ → Context σ → ε → Verdict σ ε) (announced : ε → String)
    (credited : String → ε → String) (chain : EffectChain σ) (cx : Context σ) (event : ε) :
    Resolved σ ε :=
  chain.resolve ask .effects (announced event)
    (fun claimant event => claimant.map fun name => (.info, credited name event)) cx event

/-- What is made of an event is read off what came of asking the chain. -/
theorem credit_eq_of_consult {chain : EffectChain σ} {announced : ε → String}
    {credited : String → ε → String} {cx : Context σ} {event : ε} {settled : Settlement σ ε}
    (consulted : consult ask chain.resolvers (cx.info .effects (announced event)) event = settled) :
    credit ask announced credited chain cx event =
      { handled := settled.claimant.isSome
        event := settled.event
        chain := ⟨settled.resolvers⟩
        context := conclude settled.context .effects
          (settled.claimant.map fun name => (.info, credited name settled.event)) } := by
  -- The entry at the end depends on the settlement alone.
  rw [← consulted]
  rfl

/-- If declining is clean, the first claim decides. -/
theorem credit_decides [Host σ] {chain : EffectChain σ} (announced : ε → String)
    (credited : String → ε → String)
    (clean : ∀ resolver ∈ chain.resolvers, ∀ cx event, (ask resolver cx event).Clean cx event) :
    FirstClaimDecides chain ask (credit ask announced credited) announced credited where
  handled_iff cx event :=
    consult_claimed_iff fun resolver member cx => clean resolver member cx event
  claimed := by
    intro earlier claimant later split cx event start declined verdict decline claims
    have before : ∀ resolver ∈ earlier, ∀ cx, (ask resolver cx event).Clean cx event :=
      fun resolver member cx => clean resolver (by simp [split, member]) cx event
    have settled := consult_of_firstClaim before decline rfl claims later
    rw [← split] at settled
    exact ⟨onlyDrawn_of_allDecline before decline, credit_eq_of_consult settled⟩
  unclaimed := by
    intro cx event start declined decline
    have clean := fun resolver member cx => clean resolver member cx event
    exact ⟨onlyDrawn_of_allDecline clean decline,
      credit_eq_of_consult (consult_of_allDecline clean decline)⟩
  extended := by
    intro extra cx event shorter verdict
    let start := cx.info .effects (announced event)
    have clean := fun resolver member cx => clean resolver member cx event
    constructor
    · intro handled
      have longer : consult ask (chain.append extra).resolvers start event =
          { consult ask chain.resolvers start event with
            resolvers := (consult ask chain.resolvers start event).resolvers ++ [extra] } := by
        rw [append, consult_append]
        exact if_pos handled
      exact credit_eq_of_consult longer
    · intro unhandled
      have decline := allDecline_of_unclaimed clean unhandled
      have left : shorter = _ := credit_eq_of_consult (consult_of_allDecline clean decline)
      -- The last resolver is asked in the context that the others left, without an entry between.
      have asked : ask extra (contextAfter start (poll ask event chain.resolvers start)) event =
          verdict := by
        simp only [verdict, left]
        rfl
      have longer : consult ask (chain.append extra).resolvers start event = _ :=
        consult_concat_of_allDecline clean decline asked
      rw [credit_eq_of_consult longer, left]
      cases verdict.claimed <;> rfl

end EffectChain

/-- The chain's entry for the use of an item. -/
def ItemUse.announced (use : ItemUse) : String :=
  s!"Running item effect {use.item.id}"

/-- The chain's entry for the use of an item that someone claimed. -/
def ItemUse.credited (name : String) (use : ItemUse) : String :=
  s!"Item effect {use.item.id} handled by {name}"

/-- The chain's entry for the use of a move. -/
def MoveUse.announced (use : MoveUse) : String :=
  s!"Running move effect {use.input.moveId}"

/-- The chain's entry for the use of a move that someone claimed. -/
def MoveUse.credited (name : String) (use : MoveUse) : String :=
  s!"Move effect {use.input.moveId} handled by {name} (dealt damage: {use.input.dealtDamage})"

/-- The first claim decides what becomes of the uses of items and moves, if all resolvers leave alone what they decline. -/
theorem first_claim_decides [Host σ] {effects : LocalEffects σ} {secondary : List (Resolver σ)}
    (clean : ∀ resolver ∈ (EffectChain.new effects secondary).resolvers,
      resolver.DeclinesCleanly) :
    (∀ thrown, FirstClaimDecides (.new effects secondary) (Resolver.item thrown)
      (fun chain => chain.itemEffect thrown) ItemUse.announced ItemUse.credited) ∧
    FirstClaimDecides (.new effects secondary) Resolver.move EffectChain.moveEffect
      MoveUse.announced MoveUse.credited := by
  constructor
  · intro thrown
    exact EffectChain.credit_decides _ _ fun resolver member => (clean resolver member).item thrown
  · exact EffectChain.credit_decides _ _ fun resolver member => (clean resolver member).move

/-- Claims every item and takes out its target, or declines every item after a draw; counts how often it was asked. -/
def counting [Host σ] (claims : Bool) : Resolver σ where
  name := "counting"
  Memory := Nat
  memory := 0
  onItem _ asked cx use :=
    { claimed := claims
      event := if claims then { use with target.valid := false } else use
      memory := asked + 1
      context := if claims then cx else (cx.call (Host.randRange 0 2)).2 }

/-- Counting leaves alone what it declines. -/
theorem counting_declinesCleanly [Host σ] (claims : Bool) :
    (counting claims : Resolver σ).DeclinesCleanly where
  item thrown cx use := by
    cases claims with
    | true => exact ⟨nofun, nofun⟩
    | false => exact ⟨fun _ => rfl, fun _ => ⟨[(0, 2)], rfl⟩⟩
  move cx use := ⟨fun _ => rfl, fun _ => .refl cx.host⟩

/-- Of three that count, the first declines after a draw, the second claims, and the third is not asked. -/
theorem second_of_three_claims :
    let chain : EffectChain ScriptedHost :=
      .new .builtin [counting false, counting true, counting true]
    let use : ItemUse := { user := {}, target := {}, item := { id := 7 } }
    let resolved := chain.itemEffect true { host := { random := [1] } } use
    (∀ resolver ∈ chain.resolvers, resolver.DeclinesCleanly) ∧
      resolved.handled = true ∧
      resolved.event = { use with target.valid := false } ∧
      resolved.context.host = {} ∧
      resolved.context.journal.entries.map (·.message) =
        ["Running item effect 7", "Item effect 7 handled by counting"] ∧
      resolved.chain.resolvers.drop 3 = [counting true] := by
  intro chain use resolved
  have clean : ∀ resolver ∈ chain.resolvers, resolver.DeclinesCleanly := by
    simp [chain, EffectChain.new, LocalEffects.builtin_alwaysClaims.declinesCleanly,
      counting_declinesCleanly]
  -- The built-in table has no handler for the item, and the first of the three always declines.
  have decided := (((first_claim_decides clean).1 true).claimed
    [LocalEffects.builtin.resolver, counting false] (counting true) [counting true] rfl
    { host := { random := [1] } } use (by decide +kernel) (by decide +kernel)).2
  rw [show resolved = _ from decided]
  exact ⟨clean, rfl, rfl, rfl, by decide +kernel, rfl⟩

end DungeonHooks
