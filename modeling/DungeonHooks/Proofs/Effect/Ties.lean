import DungeonHooks.Effect.BeastBoost
import DungeonHooks.Proofs.Replay.Wear

/-! The highest stats of a monster: those that no other one is greater than, and what a draw makes of them. -/

namespace DungeonHooks

/-- No stat of the monster has a greater value. -/
def Monster.Tops (monster : Monster) (stat : Stat) : Prop :=
  ∀ other, monster.stat other ≤ monster.stat stat

/-- Every stat is one of the four. -/
theorem Stat.mem_all (stat : Stat) : stat ∈ Stat.all := by
  cases stat <;> decide

instance (monster : Monster) : DecidablePred monster.Tops := fun stat =>
  decidable_of_iff (∀ other ∈ Stat.all, monster.stat other ≤ monster.stat stat)
    ⟨fun all other => all other other.mem_all, fun tops other _ => tops other⟩

/-- The stats of a monster that no other one is greater than, in the order of the four. -/
def Monster.topStats (monster : Monster) : List Stat :=
  Stat.all.filter fun stat => monster.Tops stat

/-- What a draw makes of the highest stats of a monster. -/
structure Monster.Chooses (monster : Monster) (draw : Int32) (stat : Stat) : Prop where
  /-- There is at least one of them, and there are at most four. -/
  few : 1 ≤ monster.topStats.length ∧ monster.topStats.length ≤ 4
  tops : monster.Tops stat
  /-- A draw that counts to one of them chooses that one. -/
  inside : ∀ place : Nat, draw.toInt = place → place < monster.topStats.length →
    monster.topStats[place]? = some stat
  /-- Any other draw chooses the first. -/
  outside : draw.toInt < 0 ∨ (monster.topStats.length : Int) ≤ draw.toInt →
    monster.topStats.head? = some stat

section

variable (monster : Monster)

/-- The largest of the four values, as a number. -/
theorem toInt_highestStat : monster.highestStat.toInt =
    max (max (monster.stat .attack).toInt (monster.stat .defense).toInt)
      (max (monster.stat .specialAttack).toInt (monster.stat .specialDefense).toInt) := by
  rw [Monster.highestStat, toInt_max, toInt_max, toInt_max]

/-- One of the four stats has that value. -/
theorem tiedStats_ne_nil : monster.tiedStats ≠ [] := by
  have greatest := toInt_highestStat monster
  intro untied
  -- Each of the four would have to differ from the largest of them.
  have differs (stat : Stat) : (monster.stat stat).toInt ≠ monster.highestStat.toInt := by
    intro same
    have tied : stat ∈ monster.tiedStats :=
      List.mem_filter.mpr ⟨stat.mem_all, beq_iff_eq.mpr (Int32.toInt_inj.mp same)⟩
    rw [untied] at tied
    contradiction
  have attack := differs .attack
  have defense := differs .defense
  have specialAttack := differs .specialAttack
  have specialDefense := differs .specialDefense
  omega

/-- The stats that have the largest of the four values are those that no other is greater than. -/
theorem tiedStats_eq : monster.tiedStats = monster.topStats := by
  have greatest := toInt_highestStat monster
  refine List.filter_congr fun stat _ => ?_
  rw [Bool.eq_iff_iff, beq_iff_eq, decide_eq_true_iff]
  constructor
  · intro highest other
    -- None of the four values is greater than the largest one.
    rw [highest, Int32.le_iff_toInt_le, greatest]
    cases other <;> omega
  · intro tops
    -- It is not less than any of the four, and the largest one is one of them.
    have attack := Int32.le_iff_toInt_le.mp (tops .attack)
    have defense := Int32.le_iff_toInt_le.mp (tops .defense)
    have specialAttack := Int32.le_iff_toInt_le.mp (tops .specialAttack)
    have specialDefense := Int32.le_iff_toInt_le.mp (tops .specialDefense)
    rw [← Int32.toInt_inj, greatest]
    cases stat <;> omega

/-- There is a highest stat. -/
theorem topStats_ne_nil : monster.topStats ≠ [] := by
  rw [← tiedStats_eq]
  exact tiedStats_ne_nil monster

/-- There are no more of them than there are stats. -/
theorem topStats_length : 1 ≤ monster.topStats.length ∧ monster.topStats.length ≤ 4 := by
  constructor
  · exact List.length_pos_iff.mpr (topStats_ne_nil monster)
  · exact List.length_filter_le _ Stat.all

variable {monster}

/-- Whatever is drawn, a highest stat is chosen, and the draw decides between several of them. -/
theorem chooses_select (draw : Int32) :
    monster.Chooses draw (Stat.select monster.tiedStats draw) := by
  rw [tiedStats_eq]
  obtain ⟨first, others, listed⟩ := List.exists_cons_of_ne_nil (topStats_ne_nil monster)
  -- A draw that counts to a stat selects it, and the first one is selected otherwise.
  have inside (place : Nat) (counts : draw.toInt = place)
      (there : place < monster.topStats.length) :
      monster.topStats[place]? = some (Stat.select monster.topStats draw) := by
    have found := List.getElem?_eq_getElem there
    rw [Stat.select, counted_eq_some_iff.mpr ⟨place, counts, found⟩, found]
    rfl
  have outside (beyond : draw.toInt < 0 ∨ (monster.topStats.length : Int) ≤ draw.toInt) :
      monster.topStats.head? = some (Stat.select monster.topStats draw) := by
    have missed : (if draw < 0 then none else monster.topStats[draw.toInt.toNat]?) = none := by
      refine Option.eq_none_iff_forall_ne_some.mpr fun stat counted => ?_
      obtain ⟨place, counts, found⟩ := counted_eq_some_iff.mp counted
      obtain ⟨there, -⟩ := List.getElem?_eq_some_iff.mp found
      omega
    rw [Stat.select, missed, listed]
    rfl
  have listed : Stat.select monster.topStats draw ∈ monster.topStats := by
    by_cases beyond : draw.toInt < 0 ∨ (monster.topStats.length : Int) ≤ draw.toInt
    · exact List.mem_of_head? (outside beyond)
    · exact List.mem_of_getElem? (inside draw.toInt.toNat (by omega) (by omega))
  exact
    { few := topStats_length monster
      tops := of_decide_eq_true (List.mem_filter.mp listed).2
      inside
      outside }

end

end DungeonHooks
