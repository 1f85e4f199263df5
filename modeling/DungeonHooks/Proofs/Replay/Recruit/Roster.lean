import DungeonHooks.Proofs.Host.Talk
import DungeonHooks.Replay.SimulatedHost

/-! The roster of the simulated host: the slot that a recruit is written into, and what becomes of the others. -/

namespace DungeonHooks.Replay

open RecruitMenu

/-- The roster and the species that joined are the same. -/
structure SameMembers (before after : SimulatedHost) : Prop where
  roster : after.roster = before.roster
  joined : after.joined = before.joined

/-- What stays the same twice stays the same. -/
theorem SameMembers.trans {before mid after : SimulatedHost} (first : SameMembers before mid)
    (second : SameMembers mid after) : SameMembers before after :=
  ⟨second.roster.trans first.roster, second.joined.trans first.joined⟩

/-- A frame of input leaves the roster alone. -/
theorem SameMembers.advanceFrame (host : SimulatedHost) : SameMembers host host.advanceFrame := by
  -- Input goes to windows and to the keyboard only.
  unfold SimulatedHost.advanceFrame
  cases host.keyboard <;> exact ⟨rfl, rfl⟩

/-- The lowest slot that is free, of those that are searched for a recruit. -/
structure FirstFree (host : SimulatedHost) (slot : Nat) : Prop where
  searched : slot < min rosterLimit host.rosterCapacity
  free : slot ∉ host.roster
  taken : ∀ lower < slot, lower ∈ host.roster

/-- No slot that is searched for a recruit is free. -/
def Full (host : SimulatedHost) : Prop :=
  ∀ slot < min rosterLimit host.rosterCapacity, slot ∈ host.roster

/-- What a commit makes of the roster, with the value that tells about it: a member in the first free slot, or none. -/
inductive Enlists (species : Int32) (before after : SimulatedHost) : Int32 → Prop where
  | joined {slot : Nat} (free : FirstFree before slot)
      (roster : after.roster = before.roster.insert slot
        (newcomer species (Text.cut nameLength (before.nameOf species))))
      (marked : after.joined = before.joined ++ [species]) :
      Enlists species before after (Int32.ofNat slot)
  | full (full : Full before) (same : SameMembers before after) : Enlists species before after (-2)

/-- It takes no more than that the roster is the same after it. -/
theorem Enlists.same {species value : Int32} {before after other : SimulatedHost}
    (enlists : Enlists species before after value) (same : SameMembers after other) :
    Enlists species before other value := by
  cases enlists with
  | joined free roster marked =>
    exact .joined free (same.roster.trans roster) (same.joined.trans marked)
  | full full unchanged => exact .full full (unchanged.trans same)

section

variable {roster : Std.TreeMap Nat Recruit}

/-- A slot that is found is free, and all slots before it are taken. -/
theorem firstFree_found {slot count found : Nat}
    (search : SimulatedHost.firstFree roster slot count = some found) :
    found < slot + count ∧ found ∉ roster ∧
      ∀ lower, slot ≤ lower → lower < found → lower ∈ roster := by
  -- The search goes on from the next slot as long as slots are taken.
  induction count generalizing slot with
  | zero => contradiction
  | succ count ih =>
    rw [SimulatedHost.firstFree] at search
    split at search
    case isTrue taken =>
      obtain ⟨below, free, others⟩ := ih search
      refine ⟨by omega, free, fun lower above less => ?_⟩
      -- The first slot is the one that was passed by.
      rcases Nat.eq_or_lt_of_le above with rfl | above
      · exact Std.TreeMap.mem_iff_contains.mpr taken
      · exact others lower above less
    case isFalse free =>
      obtain rfl := Option.some.inj search
      exact ⟨by omega, fun taken => free (Std.TreeMap.mem_iff_contains.mp taken), by omega⟩

/-- If no slot is found, all are taken. -/
theorem firstFree_full {slot count : Nat}
    (search : SimulatedHost.firstFree roster slot count = none) :
    ∀ taken, slot ≤ taken → taken < slot + count → taken ∈ roster := by
  -- A search that finds nothing has passed by every slot.
  induction count generalizing slot with
  | zero => omega
  | succ count ih =>
    intro taken above below
    rw [SimulatedHost.firstFree] at search
    split at search
    case isTrue first =>
      rcases Nat.eq_or_lt_of_le above with rfl | above
      · exact Std.TreeMap.mem_iff_contains.mpr first
      · exact ih search taken above (by omega)
    case isFalse => contradiction

end

end DungeonHooks.Replay
