import DungeonHooks.Text.Cut

/-! A bounded comparison orders bytes as strings that end at their first zero or at the bound. -/

namespace DungeonHooks.Text

/-- The bytes that a comparison looks at: those before the first zero, and no more than the bound. -/
def bounded (n : Nat) (bytes : List UInt8) : List UInt8 :=
  (bytes.takeWhile (· ≠ 0)).take n

/-- The first byte is looked at unless it is missing or zero, and the others behind it. -/
theorem bounded_succ (n : Nat) (bytes : List UInt8) :
    bounded (n + 1) bytes =
      if bytes.headD 0 = 0 then [] else bytes.headD 0 :: bounded n bytes.tail := by
  cases bytes with
  | nil => rfl
  | cons byte rest =>
    by_cases zero : byte = 0
    · simp [bounded, zero]
    · simp [bounded, zero]

/-- The first byte decides, and a missing one comes before all others. -/
theorem bounded_lt_bounded {a b : List UInt8} (n : Nat) (less : a.headD 0 < b.headD 0) :
    bounded (n + 1) a < bounded (n + 1) b := by
  -- What is greater than another byte is not zero, so that it is looked at.
  have some : b.headD 0 ≠ 0 := by
    intro none
    exact absurd (none ▸ less) UInt8.not_lt_zero
  rw [bounded_succ, bounded_succ, if_neg some]
  split
  case isTrue => exact List.nil_lt_cons ..
  case isFalse => exact List.cons_lt_cons_iff.mpr (.inl less)

/-- No difference of two bytes is out of range. -/
theorem toInt_difference (a b : UInt8) :
    (Int32.ofInt (a.toNat - b.toNat)).toInt = a.toNat - b.toNat := by
  have first := a.toNat_lt
  have second := b.toNat_lt
  exact Int32.toInt_ofInt_of_le (by simp; omega) (by simp; omega)

/-- The difference of two bytes is negative if the first is smaller. -/
theorem difference_neg {a b : UInt8} (less : a < b) : Int32.ofInt (a.toNat - b.toNat) < 0 := by
  rw [Int32.lt_iff_toInt_lt, toInt_difference]
  exact Int.sub_neg_of_lt (Int.ofNat_lt.mpr less)

/-- The difference of two bytes is positive if the second is smaller. -/
theorem difference_pos {a b : UInt8} (less : b < a) : 0 < Int32.ofInt (a.toNat - b.toNat) := by
  rw [Int32.lt_iff_toInt_lt, toInt_difference]
  exact Int.sub_pos_of_lt (Int.ofNat_lt.mpr less)

/-- A comparison is zero, negative or positive as the bytes that it looks at are ordered. -/
theorem compareBounded_cases (n : Nat) (a b : List UInt8) :
    (compareBounded n a b = 0 ∧ bounded n a = bounded n b) ∨
      (compareBounded n a b < 0 ∧ bounded n a < bounded n b) ∨
      (0 < compareBounded n a b ∧ bounded n b < bounded n a) := by
  induction n generalizing a b with
  | zero => exact .inl ⟨rfl, rfl⟩
  | succ n ih =>
    rw [compareBounded]
    by_cases same : a.headD 0 = b.headD 0
    · rw [if_neg (not_not_intro same), bounded_succ, bounded_succ, same]
      by_cases ends : b.headD 0 = 0
      · simp only [if_pos ends, and_self, true_or]
      · -- Nothing is decided yet, and the bytes behind are compared.
        simpa only [if_neg ends, List.cons_inj_right, List.cons_lt_cons_self] using ih a.tail b.tail
    · rw [if_pos same]
      rcases UInt8.lt_or_lt_of_ne same with less | more
      · exact .inr (.inl ⟨difference_neg less, bounded_lt_bounded n less⟩)
      · exact .inr (.inr ⟨difference_pos more, bounded_lt_bounded n more⟩)

/-- A comparison the other way round has the opposite outcome. -/
theorem compareBounded_swap (n : Nat) (a b : List UInt8) :
    compareBounded n b a = -compareBounded n a b := by
  induction n generalizing a b with
  | zero => exact Int32.neg_zero.symm
  | succ n ih =>
    rw [compareBounded, compareBounded]
    by_cases same : a.headD 0 = b.headD 0
    · rw [if_neg (not_not_intro same), if_neg (not_not_intro same.symm), same, ih a.tail b.tail]
      split
      case isTrue => exact Int32.neg_zero.symm
      case isFalse => rfl
    · rw [if_pos same, if_pos (Ne.symm same), ← Int32.ofInt_neg, Int.neg_sub]

/-- The sign of a comparison is the order of the bytes that it looks at. -/
theorem compareBounded_sign (n : Nat) (a b : List UInt8) :
    (compareBounded n a b = 0 ↔ bounded n a = bounded n b) ∧
      (compareBounded n a b < 0 ↔ bounded n a < bounded n b) ∧
      (0 < compareBounded n a b ↔ bounded n b < bounded n a) := by
  -- The cases exclude each other on both sides.
  have cases := compareBounded_cases n a b
  grind

/-- A comparison is not positive as long as the bytes that it looks at are in order. -/
theorem compareBounded_le_iff (n : Nat) (a b : List UInt8) :
    compareBounded n a b ≤ 0 ↔ bounded n a ≤ bounded n b := by
  rw [← Int32.not_lt, (compareBounded_sign n a b).2.2, List.not_lt]

/-- A comparison orders bytes as strings that end at the first zero or at the bound: by unsigned bytes, a proper prefix coming first. -/
structure ComparesStrings (n : Nat) : Prop where
  zero_iff : ∀ a b, compareBounded n a b = 0 ↔ bounded n a = bounded n b
  neg_iff : ∀ a b, compareBounded n a b < 0 ↔ bounded n a < bounded n b
  pos_iff : ∀ a b, 0 < compareBounded n a b ↔ bounded n b < bounded n a
  antisymmetric : ∀ a b, compareBounded n b a = -compareBounded n a b
  total : ∀ a b, compareBounded n a b ≤ 0 ∨ compareBounded n b a ≤ 0
  transitive : ∀ a b c, compareBounded n a b ≤ 0 → compareBounded n b c ≤ 0 →
    compareBounded n a c ≤ 0

/-- Whatever the bound, the comparison is one of strings. -/
theorem comparesStrings (n : Nat) : ComparesStrings n where
  zero_iff a b := (compareBounded_sign n a b).1
  neg_iff a b := (compareBounded_sign n a b).2.1
  pos_iff a b := (compareBounded_sign n a b).2.2
  antisymmetric := compareBounded_swap n
  -- Not to be positive is the order of lists, which is total and transitive.
  total a b := by
    simp only [compareBounded_le_iff]
    exact List.le_total ..
  transitive a b c := by
    simp only [compareBounded_le_iff]
    exact List.le_trans

/-- A missing byte comes before a byte that is there, and what follows a zero is not looked at. -/
example : compareBounded 3 [1] [1, 255] < 0 ∧ compareBounded 3 [1, 0, 2] [1, 0, 3] = 0 := by decide

end DungeonHooks.Text
