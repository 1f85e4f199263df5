import DungeonHooks.Proofs.Dispatch.Table
import DungeonHooks.Replay.Run

/-! What the host's damage and elixirs make of an entity, in exact numbers. -/

namespace DungeonHooks

/-- The larger of two words stands for the larger number. -/
theorem toInt_max (a b : Int32) : (max a b).toInt = max a.toInt b.toInt := by
  -- Words are ordered as their numbers are, so that both sides choose alike.
  change (if a ≤ b then b else a).toInt = _
  by_cases order : a ≤ b
  · rw [if_pos order, Int.max_eq_right (Int32.le_iff_toInt_le.mp order)]
  · rw [if_neg order]
    rw [Int32.le_iff_toInt_le] at order
    omega

/-- The larger of two bytes stands for the larger number. -/
theorem toNat_max (a b : UInt8) : (max a b).toNat = max a.toNat b.toNat := by
  change (if a ≤ b then b else a).toNat = _
  by_cases order : a ≤ b
  · rw [if_pos order, Nat.max_eq_right (UInt8.le_iff_toNat_le.mp order)]
  · rw [if_neg order]
    rw [UInt8.le_iff_toNat_le] at order
    omega

/-- The smaller of two bytes stands for the smaller number. -/
theorem toNat_min (a b : UInt8) : (min a b).toNat = min a.toNat b.toNat := by
  change (if a ≤ b then a else b).toNat = _
  by_cases order : a ≤ b
  · rw [if_pos order, Nat.min_eq_left (UInt8.le_iff_toNat_le.mp order)]
  · rw [if_neg order]
    rw [UInt8.le_iff_toNat_le] at order
    omega

/-- A sum of bytes is held at the largest byte. -/
theorem toNat_saturatingAddByte (a b : UInt8) :
    (saturatingAddByte a b).toNat = min 255 (a.toNat + b.toNat) := by
  -- The sum is made of numbers, and only the smaller of it and 255 is a byte again.
  rw [saturatingAddByte, UInt8.toNat_ofNat']
  omega

/-- Restored uses are counted up to the maximum; those beyond it stay. -/
theorem toNat_restorePp (move : Move) (amount : UInt8) :
    (move.restorePp amount).pp.toNat =
      max move.pp.toNat (min (move.pp.toNat + amount.toNat) move.maxPp.toNat) := by
  have bound := move.maxPp.toNat_lt
  -- The sum is cut off at the largest byte only above the maximum.
  simp only [Move.restorePp, toNat_max, toNat_min, toNat_saturatingAddByte]
  omega

namespace Replay

/-- The uses that a move has after a number of elixirs: filled up to the maximum, unless they are above it. -/
def restoredPp (elixirs : Nat) (move : Move) : Nat :=
  if move.pp.toNat ≤ move.maxPp.toNat then
    min (move.pp.toNat + elixirRestores.toNat * elixirs) move.maxPp.toNat
  else move.pp.toNat

/-- A move after a number of elixirs. -/
def restored (elixirs : Nat) (move : Move) : Move :=
  { move with pp := UInt8.ofNat (restoredPp elixirs move) }

/-- The uses fit a byte, since the uses before and the maximum do. -/
theorem toNat_restored (elixirs : Nat) (move : Move) :
    (restored elixirs move).pp.toNat = restoredPp elixirs move := by
  have uses := move.pp.toNat_lt
  have bound := move.maxPp.toNat_lt
  -- No remainder is taken of a number that is small enough.
  rw [restored, UInt8.toNat_ofNat', Nat.mod_eq_of_lt]
  unfold restoredPp
  split <;> omega

/-- Moves are the same if they have as many uses, and nothing else tells them apart. -/
theorem move_ext {move other : Move} (id : move.id = other.id) (maxPp : move.maxPp = other.maxPp)
    (pp : move.pp.toNat = other.pp.toNat) : move = other := by
  -- Bytes with the same number are the same byte.
  obtain ⟨_, uses, _⟩ := move
  obtain ⟨_, uses', _⟩ := other
  obtain rfl : uses = uses' := UInt8.toNat_inj.mp pp
  obtain rfl := id
  obtain rfl := maxPp
  rfl

/-- Without an elixir, a move stays as it is. -/
theorem restored_zero (move : Move) : restored 0 move = move := by
  -- Uses above the maximum are left alone, and others are not moved by zero.
  refine move_ext rfl rfl ?_
  rw [toNat_restored]
  unfold restoredPp
  split <;> omega

/-- What was cut off at the maximum once is cut off there again, so that a further elixir only counts as one more. -/
theorem restorePp_restored (elixirs : Nat) (move : Move) :
    (restored elixirs move).restorePp elixirRestores = restored (elixirs + 1) move := by
  refine move_ext rfl rfl ?_
  have amount : elixirRestores.toNat = 10 := rfl
  have same : (restored elixirs move).maxPp = move.maxPp := rfl
  rw [toNat_restorePp, toNat_restored, toNat_restored, same]
  -- The cases are those of the closed form, in which both sides are linear.
  unfold restoredPp
  rw [amount]
  split <;> omega

/-- The hit points that are left after some damage; without damage, they stay as they are. -/
def hpAfter (harm : Nat) (hp : Int) : Int :=
  if 0 < harm then max 0 (hp - harm) else hp

/-- A monster after some damage and a number of elixirs. -/
def wornMonster (harm elixirs : Nat) (monster : Monster) : Monster :=
  { monster with
    hp := Int32.ofInt (hpAfter harm monster.hp.toInt)
    moves := monster.moves.map (restored elixirs) }

/-- Some damage took the last of the hit points. -/
def fatal (harm : Nat) (hp : Int) : Bool :=
  decide (0 < harm) && hpAfter harm hp == 0

/-- An entity after some damage and a number of elixirs: it is gone if the damage was fatal. -/
def worn (harm elixirs : Nat) (entity : Entity) : Entity :=
  match entity.monster with
  | none => entity
  | some monster =>
    { valid := entity.valid && !fatal harm monster.hp.toInt
      monster := some (wornMonster harm elixirs monster) }

/-- The hit points fit a word, since those before do and zero does. -/
theorem toInt_hpAfter (harm : Nat) (hp : Int32) :
    (Int32.ofInt (hpAfter harm hp.toInt)).toInt = hpAfter harm hp.toInt := by
  have low := hp.le_toInt
  have high := hp.toInt_lt
  -- Damage moves hit points down, but never below zero.
  refine Int32.toInt_ofInt_of_le ?_ ?_
  · unfold hpAfter
    split <;> omega
  · unfold hpAfter
    split <;> omega

/-- What has not been touched is as it was. -/
theorem worn_zero (entity : Entity) : worn 0 0 entity = entity := by
  obtain ⟨valid, _ | monster⟩ := entity
  · rfl
  · have moves : monster.moves.map (restored 0) = monster.moves := by
      rw [List.map_congr_left fun move _ => restored_zero move, List.map_id']
    simp [worn, wornMonster, fatal, hpAfter, moves, Int32.ofInt_toInt]

/-- The host's damage stops at zero, so that the difference is exact whenever it counts. -/
theorem toInt_struck {hp power : Int32} (positive : 0 < power.toInt) :
    (max (saturatingSub hp power) 0).toInt = max 0 (hp.toInt - power.toInt) := by
  have high := hp.toInt_lt
  rw [toInt_max, saturatingSub, toInt_ofIntClamp_eq, Int32.toInt_minValue, Int32.toInt_maxValue,
    Int32.toInt_zero]
  omega

/-- Damage adds up: whatever was cut off at zero is not lost again. -/
theorem hpAfter_add (harm : Nat) {power : Nat} (positive : 0 < power) (hp : Int) :
    hpAfter (harm + power) hp = max 0 (hpAfter harm hp - power) := by
  -- Only without damage before may hit points be below zero, and then the first damage lifts them.
  unfold hpAfter
  rw [if_pos (show 0 < harm + power by omega)]
  split <;> omega

/-- Further damage is fatal if it leaves nothing; if it leaves something, the damage before was not fatal. -/
theorem fatal_add (harm : Nat) {power : Nat} (positive : 0 < power) (hp : Int) :
    fatal (harm + power) hp = (hpAfter (harm + power) hp == 0) ∧
      (hpAfter (harm + power) hp ≠ 0 → fatal harm hp = false) := by
  have hurt : 0 < harm + power := by omega
  refine ⟨by simp [fatal, hurt], fun left => ?_⟩
  rw [hpAfter_add harm positive] at left
  -- Hit points that are left now were there before.
  rw [fatal, Bool.and_eq_false_imp, beq_eq_false_iff_ne]
  intro _ nothing
  omega

/-- The host's own damage counts by its power, and not at all without power. -/
theorem nativeDamage_worn (power : Int32) (harm elixirs : Nat) (entity : Entity) :
    (nativeDamage power (worn harm elixirs entity)).2 =
      worn (harm + power.toInt.toNat) elixirs entity := by
  obtain ⟨valid, _ | monster⟩ := entity
  · rfl
  · by_cases weak : power ≤ 0
    · -- Without power, the target is not even looked at.
      have none : power.toInt.toNat = 0 := by
        have order := Int32.le_iff_toInt_le.mp weak
        rw [Int32.toInt_zero] at order
        omega
      rw [none, Nat.add_zero]
      simp only [nativeDamage, worn, if_pos weak]
    · have strong : 0 < power.toInt := by
        rw [Int32.le_iff_toInt_le, Int32.toInt_zero] at weak
        omega
      have positive : 0 < power.toInt.toNat := by omega
      -- The word that the host computes stands for the number of the closed form.
      have word : max (saturatingSub (wornMonster harm elixirs monster).hp power) 0 =
          Int32.ofInt (hpAfter (harm + power.toInt.toNat) monster.hp.toInt) := by
        rw [← Int32.toInt_inj, toInt_struck strong, wornMonster, toInt_hpAfter, toInt_hpAfter,
          hpAfter_add harm positive, Int.toNat_of_nonneg (Int.le_of_lt strong)]
      have empty : Int32.ofInt (hpAfter (harm + power.toInt.toNat) monster.hp.toInt) = 0 ↔
          hpAfter (harm + power.toInt.toNat) monster.hp.toInt = 0 := by
        rw [← Int32.toInt_inj, toInt_hpAfter, Int32.toInt_zero]
      -- The target was valid until now only if the damage before was not fatal.
      obtain ⟨last, others⟩ := fatal_add harm positive monster.hp.toInt
      simp only [nativeDamage, worn, if_neg weak, word, last]
      generalize power.toInt.toNat = lost at empty others ⊢
      by_cases gone : hpAfter (harm + lost) monster.hp.toInt = 0
      · simp [gone, wornMonster]
      · simp [mt empty.mp gone, gone, others gone, wornMonster]

/-- An entity after one elixir. -/
def refreshed (entity : Entity) : Entity :=
  { entity with
    monster := entity.monster.map fun monster =>
      { monster with moves := monster.moves.map (·.restorePp elixirRestores) } }

/-- A further elixir counts as one more, whatever damage was done. -/
theorem refreshed_worn (harm elixirs : Nat) (entity : Entity) :
    refreshed (worn harm elixirs entity) = worn harm (elixirs + 1) entity := by
  -- Damage and elixirs touch different fields, so they do not get into each other's way.
  obtain ⟨valid, _ | monster⟩ := entity
  · rfl
  · simp [refreshed, worn, wornMonster, restorePp_restored]

end Replay

end DungeonHooks
