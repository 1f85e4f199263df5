import DungeonHooks.Context

/-! Operations that a machine refuses: results that are no word, and places that a list does not have. Each stops the program then, and agrees with the unchecked operation otherwise. -/

namespace DungeonHooks.Checked

/-- The number is that of a word. -/
def Fits (n : Int) : Prop :=
  Int32.minValue.toInt ≤ n ∧ n ≤ Int32.maxValue.toInt

instance (n : Int) : Decidable (Fits n) :=
  inferInstanceAs (Decidable (_ ∧ _))

/-- The bounds of a word, written out. -/
theorem fits_iff {n : Int} : Fits n ↔ -2147483648 ≤ n ∧ n ≤ 2147483647 :=
  Iff.rfl

/-- The word of an exact result. A result that does not fit stops the program. -/
def exactly (operation : String) (result : Int) : Except Halt Int32 :=
  if Fits result then .ok (Int32.ofInt result)
  else .error ⟨s!"attempt to {operation} with overflow"⟩

/-- The sum of two words, if it is one. -/
def add (a b : Int32) : Except Halt Int32 :=
  exactly "add" (a.toInt + b.toInt)

/-- The difference of two words, if it is one. -/
def sub (a b : Int32) : Except Halt Int32 :=
  exactly "subtract" (a.toInt - b.toInt)

/-- The sum of two half words, if it is one. -/
def addHalf (a b : UInt16) : Except Halt UInt16 :=
  if a.toNat + b.toNat < UInt16.size then .ok (a + b)
  else .error ⟨"attempt to add with overflow"⟩

/-- The remainder that is not negative. There is none for the divisor 0, and none where the quotient is no word. -/
def remainder (a b : Int32) : Except Halt Int32 :=
  if b = 0 then .error ⟨"attempt to calculate the remainder with a divisor of zero"⟩
  else if a = Int32.minValue ∧ b = -1 then
    .error ⟨"attempt to calculate the remainder with overflow"⟩
  else .ok (Int32.ofInt (a.toInt % b.toInt))

section

variable {a b : Int32}

/-- A sum that fits is the sum of the words. -/
theorem add_eq (fits : Fits (a.toInt + b.toInt)) : add a b = .ok (a + b) := by
  rw [add, exactly, if_pos fits, Int32.ofInt_add, Int32.ofInt_toInt, Int32.ofInt_toInt]

/-- As a number, it is the sum of the numbers. -/
theorem toInt_add_eq (fits : Fits (a.toInt + b.toInt)) : (a + b).toInt = a.toInt + b.toInt := by
  rw [← Int32.ofInt_toInt a, ← Int32.ofInt_toInt b, ← Int32.ofInt_add, Int32.ofInt_toInt,
    Int32.ofInt_toInt]
  exact Int32.toInt_ofInt_of_le fits.1 (Int.lt_add_one_of_le fits.2)

/-- A difference that fits is the difference of the words. -/
theorem sub_eq (fits : Fits (a.toInt - b.toInt)) : sub a b = .ok (a - b) := by
  rw [sub, exactly, if_pos fits, Int32.ofInt_sub, Int32.ofInt_toInt, Int32.ofInt_toInt]

/-- A positive divisor has a remainder below it. -/
theorem remainder_eq (positive : 0 < b.toInt) :
    ∃ rest, remainder a b = .ok rest ∧ rest.toInt = a.toInt % b.toInt := by
  have divides : b ≠ 0 := by
    rintro rfl
    contradiction
  have unlike : ¬ (a = Int32.minValue ∧ b = -1) := by
    rintro ⟨-, rfl⟩
    contradiction
  refine ⟨_, by rw [remainder, if_neg divides, if_neg unlike], ?_⟩
  -- The remainder is between two words, and so it is one.
  have natural := Int.emod_nonneg a.toInt (Int.ne_of_gt positive)
  have below := Int.emod_lt_of_pos a.toInt positive
  have greatest := b.toInt_lt
  exact Int32.toInt_ofInt_of_le (by omega) (by omega)

end

section

variable {α : Type} {items : List α} {index : Nat}

/-- A place that a list does not have. -/
def outOfBounds (items : List α) (index : Nat) : Halt :=
  ⟨s!"index out of bounds: the len is {items.length} but the index is {index}"⟩

/-- What is at a place of a list, if it has the place. -/
def item (items : List α) (index : Nat) : Except Halt α :=
  match items[index]? with
  | some value => .ok value
  | none => .error (outOfBounds items index)

/-- A list with another value at a place, if it has the place. -/
def replace (items : List α) (index : Nat) (value : α) : Except Halt (List α) :=
  if index < items.length then .ok (items.set index value)
  else .error (outOfBounds items index)

/-- As many items from the front of a list, if it has that many. -/
def front (items : List α) (count : Nat) : Except Halt (List α) :=
  if count ≤ items.length then .ok (items.take count)
  else .error
    ⟨s!"range end index {count} out of range for slice of length {items.length}"⟩

/-- What a list has at a place is found there. -/
theorem item_eq {value : α} (there : items[index]? = some value) :
    item items index = .ok value := by
  rw [item, there]

/-- A place that a list has can be written to. -/
theorem replace_eq (inside : index < items.length) (value : α) :
    replace items index value = .ok (items.set index value) :=
  if_pos inside

/-- A list has no more items in front than it has. -/
theorem front_eq {count : Nat} (enough : count ≤ items.length) :
    front items count = .ok (items.take count) :=
  if_pos enough

end

end DungeonHooks.Checked
