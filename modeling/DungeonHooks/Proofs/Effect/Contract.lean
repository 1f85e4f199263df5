import DungeonHooks.Effect.Local
import DungeonHooks.Proofs.Host.Draws

/-! What resolvers owe each other: an event that is declined is left alone. -/

namespace DungeonHooks

variable {σ ε : Type} [Host σ]

/-- A verdict that declines leaves the event alone, and nothing has been done to the host but draws. -/
structure Verdict.Clean (cx : Context σ) (event : ε) (verdict : Verdict σ ε) : Prop where
  event : verdict.claimed = false → verdict.event = event
  host : verdict.claimed = false → OnlyDrawn cx.host verdict.context.host

/-- The resolver leaves alone what it declines, be it the use of an item or of a move. -/
structure Resolver.DeclinesCleanly (resolver : Resolver σ) : Prop where
  item : ∀ thrown cx use, (resolver.item thrown cx use).Clean cx use
  move : ∀ cx use, (resolver.move cx use).Clean cx use

namespace LocalEffects

/-- The handlers of the table claim whatever they are given. -/
structure AlwaysClaims (effects : LocalEffects σ) : Prop where
  items : ∀ (id : UInt16) (handler : ItemHandler σ), effects.items[id]? = some handler →
    ∀ thrown cx use, (handler thrown cx use).1 = true
  moves : ∀ (id : UInt16) (handler : MoveHandler σ), effects.moves[id]? = some handler →
    ∀ cx use, (handler cx use).1 = true

/-- A table whose handlers claim all they are given declines only what it has no handler for. -/
theorem AlwaysClaims.declinesCleanly {effects : LocalEffects σ} (claims : effects.AlwaysClaims) :
    effects.resolver.DeclinesCleanly where
  item thrown cx use := by
    simp only [Resolver.item, Resolver.ask, resolver]
    cases found : effects.items[use.item.id]? with
    | none => exact ⟨fun _ => rfl, fun _ => .refl cx.host⟩
    | some handler =>
      have claimed := claims.items _ handler found thrown cx use
      exact ⟨by simp [claimed], by simp [claimed]⟩
  move cx use := by
    simp only [Resolver.move, Resolver.ask, resolver]
    cases found : effects.moves[use.input.moveId]? with
    | none => exact ⟨fun _ => rfl, fun _ => .refl cx.host⟩
    | some handler =>
      have claimed := claims.moves _ handler found cx use
      exact ⟨by simp [claimed], by simp [claimed]⟩

/-- A table with one entry holds nothing else. -/
theorem eq_of_single {κ β : Type} [Ord κ] [Std.TransOrd κ] {key other : κ} {only value : β}
    (found : (({} : Std.TreeMap κ β).insert key only)[other]? = some value) : only = value := by
  rw [Std.TreeMap.getElem?_insert] at found
  split at found
  · exact Option.some.inj found
  · -- Under any other key there is nothing.
    simp at found

/-- The built-in table claims every elixir, even if there is no monster to restore. -/
theorem builtin_alwaysClaims : (builtin : LocalEffects σ).AlwaysClaims where
  items id handler found thrown cx use := by
    obtain rfl : restoreAllPp = handler := eq_of_single found
    simp only [restoreAllPp]
    cases use.target.monster <;> rfl
  moves id handler found := by simp [builtin] at found

end LocalEffects

end DungeonHooks
