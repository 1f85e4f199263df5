import DungeonHooks.Proofs.Effect.Bystander
import DungeonHooks.Proofs.Script.AllOrNothing

/-! Scripts that abstain: whatever happens, their handlers decline or fail, and draw nothing. -/

namespace DungeonHooks

namespace Script

variable {ε : Type}

section

variable {σ : Type} [Host σ]

/-- The script has nothing to say to the matter: its handler does not claim it, and makes no draw. -/
structure Matter.Idle (matter : Matter ε) (script : Script) (cx : Context σ) : Prop where
  unclaimed : ∀ changed, ¬ (matter.account script cx).Claims matter changed
  undrawn : (matter.account script cx).draws = []

/-- Handling such a matter leaves event and host alone, whatever it does to the script. -/
theorem Matter.Idle.handled {matter : Matter ε} {script : Script} {cx : Context σ}
    (idle : matter.Idle script cx) (event : ε) {remembers : Script → Prop}
    (memory : remembers (matter.handle script cx event).memory) :
    (matter.handle script cx event).Idle remembers cx event := by
  have allOrNothing := matter.allOrNothing script cx event
  have unclaimed : (matter.handle script cx event).claimed = false := by
    rw [Bool.eq_false_iff, ne_eq, allOrNothing.claimed_iff]
    rintro ⟨changed, claims⟩
    exact idle.unclaimed changed claims
  obtain ⟨same, host⟩ := allOrNothing.nothing unclaimed
  -- Without draws, nothing has come of the host.
  rw [idle.undrawn, drawn_nil] at host
  exact ⟨unclaimed, same, host, memory⟩

section

variable (matter : Matter ε) {script : Script}

/-- A script without a handler for the matter has nothing to say to it, and stays as it is. -/
theorem Matter.idle_of_unregistered
    (unregistered : script.store.handler matter.registry matter.id = .ok none) (cx : Context σ)
    (event : ε) : matter.Idle script cx ∧ (matter.handle script cx event).memory = script := by
  refine ⟨⟨?_, ?_⟩, ?_⟩
  · simp [Matter.account, unregistered, Account.Claims]
  · simp [Matter.account, unregistered, Account.draws]
  · simp [Matter.handle, Script.handle, unregistered, Handled.declined]

/-- A handler that says nothing to the host, and whose values do not claim, has nothing to say to the matter; it leaves its store to the script. -/
theorem Matter.idle_of_done {handler : Value} {result : Except Raise (List Value)} {left : Store}
    (registered : script.store.handler matter.registry matter.id = .ok (some handler))
    (ran : call maxSteps .outermost 0 handler (matter.offer script.store.offer).args
      (matter.offer script.store.offer).store = .done (result, left))
    (declines : ∀ values, result = .ok values → ¬ matter.claims values) (cx : Context σ)
    (event : ε) : matter.Idle script cx ∧
      (matter.handle script cx event).memory.store = left.withdraw := by
  refine ⟨⟨?_, ?_⟩, ?_⟩
  · rintro changed ⟨values, store, ended, claims, -⟩
    simp only [Matter.account, registered, ran, Dialogue.hold] at ended
    cases result with
    | error raise => cases ended
    | ok =>
      cases ended
      exact declines _ rfl claims
  · simp [Matter.account, registered, ran, Dialogue.remarks, Account.draws]
  · simp only [Matter.handle, Script.handle, registered, attend, ran, Dialogue.hold, settle]
    -- Whatever became of the event, the store is the one that the handler left.
    split <;> rfl

end

end

variable (σ : Type) [Host σ]

/-- What may become of a script while it handles events, one after another. -/
inductive Later (script : Script) : Script → Prop where
  | now : Later script script
  | item {later : Script} (thrown : Bool) (cx : Context σ) (use : ItemUse) :
    Later script later → Later script (later.onItem thrown cx use).memory
  | move {later : Script} (cx : Context σ) (use : MoveUse) :
    Later script later → Later script (later.onMove cx use).memory
  | process {later : Script} (call : ProcessCall) (cx : Context σ) (value : Int32) :
    Later script later → Later script (later.onProcess call cx value).memory

/-- The handlers of the script always decline or fail, and never draw, whatever it has handled before. -/
structure Abstains (script : Script) : Prop where
  item : ∀ later, Later σ script later → ∀ thrown use (cx : Context σ),
    (itemMatter thrown use).Idle later cx
  move : ∀ later, Later σ script later → ∀ use (cx : Context σ), (moveMatter use).Idle later cx
  process : ∀ later, Later σ script later → ∀ call (cx : Context σ),
    (processMatter call).Idle later cx

/-- A script that abstains is a bystander. -/
theorem Abstains.bystander {σ : Type} [Host σ] {script : Script} (abstains : script.Abstains σ) :
    (script.resolver : Resolver σ).Bystander := by
  refine ⟨fun later : Script => Later σ script later, .now, fun later reached cx => ⟨?_, ?_, ?_⟩⟩
  · intro thrown use
    exact (abstains.item later reached thrown use cx).handled use (reached.item thrown cx use)
  · intro use
    exact (abstains.move later reached use cx).handled use (reached.move cx use)
  · intro call value
    exact (abstains.process later reached call cx).handled value (reached.process call cx value)

end Script

end DungeonHooks
