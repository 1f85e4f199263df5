import DungeonHooks.Proofs.Dispatch.Table

/-! The listing of a handler table: which external ids it gives its records, and that looking an id up is reading the listing. -/

namespace DungeonHooks.HandlerTable

variable {α : Type}

/-- The listing of a table has every record once and in order, each beside the one id that it is looked up by. -/
structure ListsRecords (table : HandlerTable α) : Prop where
  ascending : (table.toList.map Prod.fst).Pairwise (· < ·)
  complete : table.toList.map Prod.snd = table.records
  inverse : ∀ id record, table.lookup id = .ok record ↔ (id, record) ∈ table.toList

/-- A table is looked up by exact distances, however far an id is from the first one. -/
structure LooksUpExactly (table : HandlerTable α) : Prop where
  found : ∀ id record, table.lookup id = .ok record ↔
    ∃ place : Nat, id.toInt - table.firstId.toInt = place ∧ table.records[place]? = some record
  /-- Any other id is refused, with its distance from the first one as far as that fits a word. -/
  refused : ∀ id, (∀ place : Nat, place < table.len → id.toInt - table.firstId.toInt ≠ place) →
    ∃ error, table.lookup id = .error error ∧ error.table = table.kind ∧ error.len = table.len ∧
      error.index.toInt = max Int32.minValue.toInt
        (min Int32.maxValue.toInt (id.toInt - table.firstId.toInt))
  contained : ∀ index, table.contains index = true ↔ ∃ record, table.get index = .ok record
  /-- As long as the last id fits a word, the listing has what is found at each id. -/
  listed : table.firstId.toInt + table.len - 1 ≤ Int32.maxValue.toInt → table.ListsRecords

section

variable {table : HandlerTable α}

/-- A table contains the indices that it has a record at. -/
theorem contains_iff {index : Int32} :
    table.contains index = true ↔ ∃ record, table.get index = .ok record := by
  rw [contains, len, Bool.and_eq_true, decide_eq_true_eq, decide_eq_true_eq, Int32.le_iff_toInt_le,
    Int32.toInt_zero]
  constructor
  · rintro ⟨natural, inside⟩
    exact ⟨_, get_of_lt (Int.toNat_of_nonneg natural).symm inside⟩
  · rintro ⟨record, given⟩
    obtain ⟨place, counts, found⟩ := record?_eq_some_iff.mp (get_eq_ok_iff.mp given)
    obtain ⟨inside, -⟩ := List.getElem?_eq_some_iff.mp found
    omega

/-- The listing pairs the record at a place with the external id of the place. -/
theorem mem_toList_iff {id : Int32} {record : α} : (id, record) ∈ table.toList ↔
    ∃ place, table.records[place]? = some record ∧ table.externalId place = id := by
  rw [toList, List.mem_map]
  constructor
  · rintro ⟨⟨listed, place⟩, member, same⟩
    obtain ⟨named, rfl⟩ := Prod.mk.inj same
    exact ⟨place, List.mem_zipIdx_iff_getElem?.mp member, named⟩
  · rintro ⟨place, found, rfl⟩
    exact ⟨(record, place), List.mem_zipIdx_iff_getElem?.mpr found, rfl⟩

/-- The ids that are listed are those of the places, in order. -/
theorem toList_ids : table.toList.map Prod.fst = (List.range table.len).map table.externalId := by
  rw [toList, List.map_map, List.range_eq_range', len, ← List.zipIdx_map_snd 0 table.records,
    List.map_map]
  rfl

/-- The records that are listed are those of the table. -/
theorem toList_records : table.toList.map Prod.snd = table.records := by
  rw [toList, List.map_map]
  exact List.zipIdx_map_fst 0 table.records

end

section

variable {table : HandlerTable α} (short : (table.len : Int) ≤ Int32.maxValue.toInt)

include short

/-- The external id of a place is as far from the first one as the place counts, unless it is cut off at the largest word. -/
theorem toInt_externalId {place : Nat} (inside : place < table.len) :
    (table.externalId place).toInt =
      min Int32.maxValue.toInt (table.firstId.toInt + place) := by
  rw [Int32.toInt_maxValue] at short
  have word : (Int32.ofNat place).toInt = place := Int32.toInt_ofNat_of_lt (by omega)
  have least := table.firstId.le_toInt
  rw [externalId, saturatingAdd, toInt_ofIntClamp_eq, word, Int32.toInt_minValue,
    Int32.toInt_maxValue]
  omega

/-- Looking an id up finds the record that its exact distance from the first one counts to. -/
theorem lookup_iff_place {id : Int32} {record : α} : table.lookup id = .ok record ↔
    ∃ place : Nat, id.toInt - table.firstId.toInt = place ∧
      table.records[place]? = some record :=
  lookup_eq_ok_iff.trans (record?_indexOf_eq_some_iff short)

/-- An id that is looked up with success is listed beside its record. -/
theorem mem_toList_of_lookup {id : Int32} {record : α} (given : table.lookup id = .ok record) :
    (id, record) ∈ table.toList := by
  obtain ⟨place, exact, found⟩ := (lookup_iff_place short).mp given
  obtain ⟨inside, -⟩ := List.getElem?_eq_some_iff.mp found
  refine mem_toList_iff.mpr ⟨place, found, ?_⟩
  -- The first id and the distance add up to the id, which is a word.
  have greatest := id.toInt_lt
  have number := toInt_externalId short inside
  rw [Int32.toInt_maxValue] at number
  rw [← Int32.toInt_inj]
  omega

/-- An id that the table has no place for is refused, with the distance at which it was looked for. -/
theorem lookup_refused {id : Int32}
    (apart : ∀ place : Nat, place < table.len → id.toInt - table.firstId.toInt ≠ place) :
    table.lookup id =
      .error { table := table.kind, index := table.indexOf id, len := table.len } := by
  refine get_of_absent (Option.eq_none_iff_forall_ne_some.mpr fun record known => ?_)
  -- A record would stand at a place that is the distance of the id.
  obtain ⟨place, exact, found⟩ := (lookup_iff_place short).mp (lookup_eq_ok_iff.mpr known)
  obtain ⟨inside, -⟩ := List.getElem?_eq_some_iff.mp found
  exact apart place inside exact

/-- Where the last id fits a word, none of them is cut off. -/
theorem toInt_listed (fits : table.firstId.toInt + table.len - 1 ≤ Int32.maxValue.toInt)
    {place : Nat} (inside : place < table.len) :
    (table.externalId place).toInt = table.firstId.toInt + place := by
  have number := toInt_externalId short inside
  omega

/-- The ids then ascend, and each is listed beside the record that is found at it. -/
theorem listsRecords (fits : table.firstId.toInt + table.len - 1 ≤ Int32.maxValue.toInt) :
    table.ListsRecords where
  ascending := by
    rw [toList_ids, List.pairwise_map]
    refine List.pairwise_lt_range.imp_of_mem fun former latter before => ?_
    have first := toInt_listed short fits (List.mem_range.mp former)
    have second := toInt_listed short fits (List.mem_range.mp latter)
    rw [Int32.lt_iff_toInt_lt]
    omega
  complete := toList_records
  inverse id record := by
    constructor
    · exact mem_toList_of_lookup short
    · intro listed
      obtain ⟨place, found, rfl⟩ := mem_toList_iff.mp listed
      obtain ⟨inside, -⟩ := List.getElem?_eq_some_iff.mp found
      have number := toInt_listed short fits inside
      exact (lookup_iff_place short).mpr ⟨place, by omega, found⟩

end

/-- Ids are looked up by exact distances, at both ends of the words as well, and the listing has what is found at each. -/
theorem lookup_inverts_listing {table : HandlerTable α}
    (short : (table.len : Int) ≤ Int32.maxValue.toInt) : table.LooksUpExactly where
  found _ _ := lookup_iff_place short
  refused id apart := ⟨_, lookup_refused short apart, rfl, rfl, table.toInt_indexOf id⟩
  contained _ := contains_iff
  listed := listsRecords short

/-- A table whose last id is the largest word is looked up there, and the smallest word is refused as far off as words can say. -/
theorem topmost_inverts_listing :
    let table : HandlerTable String :=
      { kind := .menus, firstId := Int32.maxValue - 1, records := ["password", "rename"] }
    (table.len : Int) ≤ Int32.maxValue.toInt ∧
      table.firstId.toInt + table.len - 1 ≤ Int32.maxValue.toInt ∧
      table.LooksUpExactly ∧ table.ListsRecords ∧
      table.lookup Int32.maxValue = .ok "rename" ∧
      ∃ error, table.lookup Int32.minValue = .error error ∧ error.index = Int32.minValue := by
  intro table
  have short : (table.len : Int) ≤ Int32.maxValue.toInt := by decide
  have fits : table.firstId.toInt + table.len - 1 ≤ Int32.maxValue.toInt := by decide
  have exact : table.LooksUpExactly := lookup_inverts_listing short
  refine ⟨short, fits, exact, exact.listed fits, ?_, ?_⟩
  · exact (exact.found _ _).mpr ⟨1, by decide, rfl⟩
  · -- The distance is less than the smallest word, which stands for it.
    obtain ⟨error, refused, -, -, distance⟩ := exact.refused Int32.minValue (by decide)
    exact ⟨error, refused, Int32.toInt_inj.mp (distance.trans (by decide))⟩

/-- Past the largest word, records are listed beside an id that leads to the one before. -/
example :
    let table : HandlerTable String :=
      { kind := .menus, firstId := Int32.maxValue, records := ["password", "rename"] }
    (Int32.maxValue, "rename") ∈ table.toList ∧ table.lookup Int32.maxValue = .ok "password" :=
  ⟨by decide, rfl⟩

end DungeonHooks.HandlerTable
