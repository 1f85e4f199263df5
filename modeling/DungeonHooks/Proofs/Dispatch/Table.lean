import DungeonHooks.Dispatch.Table

/-! Looking records up in a handler table, and the exact numbers behind the indices. -/

namespace DungeonHooks

/-- A clamped number is itself within the range of words, and an end of the range outside. -/
theorem toInt_ofIntClamp_eq (n : Int) :
    (Int32.ofIntClamp n).toInt = max Int32.minValue.toInt (min Int32.maxValue.toInt n) := by
  have order : Int32.minValue.toInt ≤ Int32.maxValue.toInt := by decide
  unfold Int32.ofIntClamp
  split
  -- Below the range there is nothing but its lower end.
  case isFalse below => omega
  case isTrue above =>
    split
    case isTrue fits =>
      rw [Int32.toInt_ofIntLE]
      omega
    case isFalse beyond => omega

/-- A word leads to a place of a list only if it counts to it, and never if it is negative. -/
theorem counted_eq_some_iff {α : Type} {records : List α} {index : Int32} {record : α} :
    (if index < 0 then none else records[index.toInt.toNat]?) = some record ↔
      ∃ place : Nat, index.toInt = place ∧ records[place]? = some record := by
  by_cases before : index < 0
  · rw [if_pos before]
    rw [Int32.lt_iff_toInt_lt, Int32.toInt_zero] at before
    constructor
    · nofun
    · rintro ⟨place, counts, -⟩
      omega
  · rw [if_neg before]
    rw [Int32.lt_iff_toInt_lt, Int32.toInt_zero] at before
    constructor
    · intro found
      exact ⟨index.toInt.toNat, by omega, found⟩
    · rintro ⟨place, counts, found⟩
      rw [counts, Int.toNat_natCast]
      exact found

namespace HandlerTable

variable {α : Type}

/-- Getting a record succeeds exactly at the indices that the table has a record at. -/
theorem get_eq_ok_iff {table : HandlerTable α} {index : Int32} {record : α} :
    table.get index = .ok record ↔ table.record? index = some record := by
  -- The error of a failed look-up is no record.
  unfold get
  cases table.record? index <;> simp

/-- Any other index is reported, together with the table. -/
theorem get_of_absent {table : HandlerTable α} {index : Int32}
    (absent : table.record? index = none) :
    table.get index = .error { table := table.kind, index, len := table.len } := by
  rw [get, absent]

/-- Looking a record up succeeds exactly on the ids that the table has a record for. -/
theorem lookup_eq_ok_iff {table : HandlerTable α} {id : Int32} {record : α} :
    table.lookup id = .ok record ↔ table.record? (table.indexOf id) = some record :=
  get_eq_ok_iff

/-- Looking a record up fails exactly on the ids that the table has no record for. -/
theorem lookup_eq_error_iff {table : HandlerTable α} {id : Int32} :
    (∃ error, table.lookup id = .error error) ↔ table.record? (table.indexOf id) = none := by
  unfold lookup get
  cases table.record? (table.indexOf id) <;> simp

/-- A table has a record at an index that counts to its place. -/
theorem record?_eq_some_iff {table : HandlerTable α} {index : Int32} {record : α} :
    table.record? index = some record ↔
      ∃ place : Nat, index.toInt = place ∧ table.records[place]? = some record :=
  counted_eq_some_iff

/-- The index of an external id is its distance from the first one, as far as that fits a word. -/
theorem toInt_indexOf (table : HandlerTable α) (id : Int32) :
    (table.indexOf id).toInt = max Int32.minValue.toInt
      (min Int32.maxValue.toInt (id.toInt - table.firstId.toInt)) := by
  rw [indexOf, saturatingSub, toInt_ofIntClamp_eq]

/--
An external id has the record that its exact distance from the first one counts to.

As long as the records are fewer than the indices there are, a distance that is cut off lies outside.
-/
theorem record?_indexOf_eq_some_iff {table : HandlerTable α}
    (short : (table.records.length : Int) ≤ Int32.maxValue.toInt) {id : Int32} {record : α} :
    table.record? (table.indexOf id) = some record ↔
      ∃ place : Nat, id.toInt - table.firstId.toInt = place ∧
        table.records[place]? = some record := by
  have clamped := table.toInt_indexOf id
  rw [Int32.toInt_maxValue] at short clamped
  rw [Int32.toInt_minValue] at clamped
  rw [record?_eq_some_iff]
  constructor
  · rintro ⟨place, counts, found⟩
    -- The place is one of the table, so it is not the one that distances are cut off at.
    obtain ⟨inside, -⟩ := List.getElem?_eq_some_iff.mp found
    exact ⟨place, by omega, found⟩
  · rintro ⟨place, exact, found⟩
    obtain ⟨inside, -⟩ := List.getElem?_eq_some_iff.mp found
    exact ⟨place, by omega, found⟩

/-- A record that a table gives is one of its records. -/
theorem mem_of_get {table : HandlerTable α} {index : Int32} {record : α}
    (given : table.get index = .ok record) : record ∈ table.records := by
  obtain ⟨place, -, found⟩ := record?_eq_some_iff.mp (get_eq_ok_iff.mp given)
  exact List.mem_of_getElem? found

/-- Below the number of records, an index has the record that it counts to. -/
theorem get_of_lt {table : HandlerTable α} {index : Int32} {place : Nat}
    (counts : index.toInt = place) (inside : place < table.records.length) :
    table.get index = .ok table.records[place] :=
  get_eq_ok_iff.mpr
    (record?_eq_some_iff.mpr ⟨place, counts, List.getElem?_eq_getElem inside⟩)

/-- From the number of records on, an index is reported as one that the table has no record for. -/
theorem get_of_length_le {table : HandlerTable α} {index : Int32}
    (beyond : (table.records.length : Int) ≤ index.toInt) :
    table.get index =
      .error { table := table.kind, index, len := table.records.length } := by
  refine get_of_absent (Option.eq_none_iff_forall_ne_some.mpr fun record known => ?_)
  -- The records end at the last place before their number.
  obtain ⟨place, counts, found⟩ := record?_eq_some_iff.mp known
  obtain ⟨inside, -⟩ := List.getElem?_eq_some_iff.mp found
  omega

end HandlerTable

end DungeonHooks
