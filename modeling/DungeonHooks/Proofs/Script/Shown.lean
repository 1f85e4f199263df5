import Mathlib.Data.List.Nodup
import DungeonHooks.Proofs.Script.Undisturbed
import DungeonHooks.Proofs.Text.Utf8

/-! The tables that a handler is given show the event: each part of it stands where it is read back from. -/

namespace DungeonHooks.Script

namespace Table

/-- A key is found to have what was put there. -/
theorem lookup_putEntry (key : Key) (value : Value) (entries : List (Key × Value)) :
    (putEntry key value entries).lookup key = some value := by
  induction entries with
  | nil => simp [putEntry]
  | cons entry rest ih =>
    obtain ⟨known, held⟩ := entry
    unfold putEntry
    split
    case isTrue => simp
    case isFalse other =>
      have apart : (key == known) = false :=
        beq_false_of_ne fun same => other (beq_iff_eq.mpr same.symm)
      simp [List.lookup_cons, apart, ih]

/-- A table gives a key the value that it was set to. -/
theorem get_set {value : Value} (something : value.isNil = false) (table : Table) (key : Key) :
    (table.set key value).get key = value := by
  simp [get, set, something, lookup_putEntry]

/-- A table with some entries, set one after another. -/
def holding (entries : List (Key × Value)) : Table :=
  entries.foldl (fun table (key, value) => table.set key value) {}

/-- Setting other keys leaves the value of a key. -/
theorem get_foldl_set_ne {key : Key} {entries : List (Key × Value)}
    (other : key ∉ entries.map (·.1)) (table : Table) :
    (entries.foldl (fun table (key, value) => table.set key value) table).get key =
      table.get key := by
  -- Each entry is set into what the ones before it made of the table.
  induction entries generalizing table with
  | nil => rfl
  | cons entry rest ih =>
    obtain ⟨first, later⟩ := not_or.mp (mt List.mem_cons.mpr other)
    exact (ih later _).trans (get_set_ne first table entry.2)

/-- Of entries with different keys, each is found. -/
theorem get_holding {key : Key} {value : Value} {entries : List (Key × Value)}
    (distinct : (entries.map (·.1)).Nodup) (member : (key, value) ∈ entries)
    (something : value.isNil = false) : (holding entries).get key = value := by
  -- It does not matter what is in the table before, as the entries behind have other keys.
  unfold holding
  generalize ({} : Table) = table
  induction entries generalizing table with
  | nil => exact absurd member List.not_mem_nil
  | cons entry rest ih =>
    obtain ⟨new, later⟩ := List.nodup_cons.mp distinct
    rcases List.mem_cons.mp member with rfl | member
    · exact (get_foldl_set_ne new _).trans (get_set something table key)
    · exact ih later member _

end Table

namespace Store

/-- Different names are different keys. -/
theorem field_injective : Function.Injective field := by
  intro name other same
  -- Names are read back from the bytes of their keys.
  have bytes : Text.utf8 name = Text.utf8 other := Key.text.inj same
  exact Option.some.inj (by rw [← Text.decode?_utf8 name, bytes, Text.decode?_utf8])

/-- A new table is found by its number. -/
theorem get_addTable (store : Store) (table : Table) (key : Key) :
    (store.addTable table).2.get (store.addTable table).1 key = table.get key := by
  simp [addTable, get, Store.table, Array.getD_eq_getD_getElem?]

/-- A named entry of a new table is found. -/
theorem read_addRecord {fields : List (String × Value)} {name : String} {value : Value}
    (distinct : (fields.map (·.1)).Nodup) (member : (name, value) ∈ fields)
    (something : value.isNil = false) (store : Store) :
    (store.addRecord fields).2.read (store.addRecord fields).1 name = value := by
  have record : store.addRecord fields =
      store.addTable (.holding (fields.map fun entry => (field entry.1, entry.2))) := by
    rw [Table.holding, List.foldl_map]
    rfl
  have entry : (field name, value) ∈ fields.map fun entry => (field entry.1, entry.2) :=
    List.mem_map.mpr ⟨(name, value), member, rfl⟩
  have keys : ((fields.map fun entry => (field entry.1, entry.2)).map (·.1)).Nodup := by
    have named := List.Nodup.map field_injective distinct
    rw [List.map_map] at named ⊢
    exact named
  -- A record is a table with an entry for each of its fields.
  rw [read, record, get_addTable]
  exact Table.get_holding keys entry something

/-- Whatever the tables from a number on hold is kept. -/
def Keeps (base : Nat) (store later : Store) : Prop :=
  ∀ id key, base ≤ id → store.get id key ≠ .nil → later.get id key = store.get id key

/-- Nothing needs to be done to keep everything. -/
theorem Keeps.refl (base : Nat) (store : Store) : Keeps base store store :=
  fun _ _ _ _ => rfl

/-- What is kept twice is kept. -/
theorem Keeps.trans {base : Nat} {store later last : Store} (first : Keeps base store later)
    (second : Keeps base later last) : Keeps base store last := by
  intro id key own something
  -- What the first has kept is still something for the second to keep.
  have same := first id key own something
  rw [← same] at something ⊢
  exact second id key own something

/-- A value is read as it was. -/
theorem Keeps.read {base id : Nat} {store later : Store} {name : String} {value : Value}
    (keeps : Keeps base store later) (own : base ≤ id) (shown : store.read id name = value)
    (something : value ≠ .nil) : later.read id name = value :=
  (keeps id (field name) own fun none => something (shown.symm.trans none)).trans shown

end Store

/-- A store that is not disturbed keeps all but globals. -/
theorem Undisturbed.keeps {base : Nat} {store later : Store} (kept : Undisturbed store later)
    (based : 0 < base) : store.Keeps base later := by
  intro id key own something
  -- A table with something in it has been added.
  have old : id < store.tables.size := by
    by_contra beyond
    exact something (by simp [Store.get, Store.table, Table.get, Array.getD, beyond])
  rw [Store.get, Store.get, kept.tables id (Nat.ne_of_gt (Nat.lt_of_lt_of_le based own)) old]

section

variable (base : Nat) (store : Store) (table : Nat)

/-- A table shows a move. -/
structure ShowsMove (move : Move) : Prop where
  own : base ≤ table
  id : store.read table "id" = .ofInt move.id.toNat
  pp : store.read table "pp" = .ofInt move.pp.toNat
  maxPp : store.read table "max_pp" = .ofInt move.maxPp.toNat

/-- A table shows an item. -/
structure ShowsItem (item : Item) : Prop where
  own : base ≤ table
  id : store.read table "id" = .ofInt item.id.toNat
  quantity : store.read table "quantity" = .ofInt item.quantity.toNat

/-- A table shows moves, the first of them at 1. -/
structure ShowsMoves (moves : List Move) : Prop where
  own : base ≤ table
  moves : ∀ slot move, moves[slot]? = some move → ∃ entry,
    store.get table (.whole (slot + 1 : Nat)) = .table entry ∧ ShowsMove base store entry move

/-- A table shows a monster, with its moves in a table of their own. -/
structure ShowsMonster (monster : Monster) : Prop where
  own : base ≤ table
  species : store.read table "species" = .ofInt monster.species.toInt
  hp : store.read table "hp" = .ofInt monster.hp.toInt
  maxHp : store.read table "max_hp" = .ofInt monster.maxHp.toInt
  attack : store.read table "atk" = .ofInt monster.attack.toInt
  defense : store.read table "def" = .ofInt monster.defense.toInt
  specialAttack : store.read table "sp_atk" = .ofInt monster.specialAttack.toInt
  specialDefense : store.read table "sp_def" = .ofInt monster.specialDefense.toInt
  moves : ∃ moves, store.read table "moves" = .table moves ∧
    ShowsMoves base store moves monster.moves

/-- A table shows an entity. -/
structure ShowsEntity (entity : Entity) : Prop where
  own : base ≤ table
  valid : store.read table "valid" = .bool entity.valid
  monster : ∀ monster, entity.monster = some monster → ShowsMonster base store table monster

/-- Three tables show the use of an item. -/
structure ShowsItemUse (user target item : Nat) (use : ItemUse) : Prop where
  user : ShowsEntity base store user use.user
  target : ShowsEntity base store target use.target
  item : ShowsItem base store item use.item

/-- Three tables show the use of a move. -/
structure ShowsMoveUse (user target move : Nat) (use : MoveUse) : Prop where
  user : ShowsEntity base store user use.user
  target : ShowsEntity base store target use.target
  used : ShowsMove base store move use.used

end

section

variable {base table : Nat} {store later : Store} (keeps : store.Keeps base later)

include keeps

/-- A move is shown as long as its table is kept. -/
theorem ShowsMove.kept {move : Move} (shows : ShowsMove base store table move) :
    ShowsMove base later table move where
  own := shows.own
  id := keeps.read shows.own shows.id nofun
  pp := keeps.read shows.own shows.pp nofun
  maxPp := keeps.read shows.own shows.maxPp nofun

/-- An item is shown as long as its table is kept. -/
theorem ShowsItem.kept {item : Item} (shows : ShowsItem base store table item) :
    ShowsItem base later table item where
  own := shows.own
  id := keeps.read shows.own shows.id nofun
  quantity := keeps.read shows.own shows.quantity nofun

/-- Moves are shown as long as their tables are kept. -/
theorem ShowsMoves.kept {moves : List Move} (shows : ShowsMoves base store table moves) :
    ShowsMoves base later table moves where
  own := shows.own
  moves slot move known := by
    obtain ⟨entry, listed, shown⟩ := shows.moves slot move known
    have same := keeps table (.whole (slot + 1 : Nat)) shows.own (by rw [listed]; nofun)
    exact ⟨entry, same.trans listed, shown.kept keeps⟩

/-- A monster is shown as long as its tables are kept. -/
theorem ShowsMonster.kept {monster : Monster} (shows : ShowsMonster base store table monster) :
    ShowsMonster base later table monster where
  own := shows.own
  species := keeps.read shows.own shows.species nofun
  hp := keeps.read shows.own shows.hp nofun
  maxHp := keeps.read shows.own shows.maxHp nofun
  attack := keeps.read shows.own shows.attack nofun
  defense := keeps.read shows.own shows.defense nofun
  specialAttack := keeps.read shows.own shows.specialAttack nofun
  specialDefense := keeps.read shows.own shows.specialDefense nofun
  moves := by
    obtain ⟨moves, listed, shown⟩ := shows.moves
    exact ⟨moves, keeps.read shows.own listed nofun, shown.kept keeps⟩

/-- An entity is shown as long as its tables are kept. -/
theorem ShowsEntity.kept {entity : Entity} (shows : ShowsEntity base store table entity) :
    ShowsEntity base later table entity where
  own := shows.own
  valid := keeps.read shows.own shows.valid nofun
  monster monster known := (shows.monster monster known).kept keeps

/-- The use of an item is shown as long as its tables are kept. -/
theorem ShowsItemUse.kept {user target item : Nat} {use : ItemUse}
    (shows : ShowsItemUse base store user target item use) :
    ShowsItemUse base later user target item use :=
  ⟨shows.user.kept keeps, shows.target.kept keeps, shows.item.kept keeps⟩

/-- The use of a move is shown as long as its tables are kept. -/
theorem ShowsMoveUse.kept {user target move : Nat} {use : MoveUse}
    (shows : ShowsMoveUse base store user target move use) :
    ShowsMoveUse base later user target move use :=
  ⟨shows.user.kept keeps, shows.target.kept keeps, shows.used.kept keeps⟩

end

section

variable {base : Nat} {store : Store} (based : 0 < base) (room : base ≤ store.tables.size)

include based room

/-- A new table leaves those that are there. -/
theorem keeps_addTable (table : Table) : store.Keeps base (store.addTable table).2 :=
  ((Undisturbed.refl (Nat.lt_of_lt_of_le based room)).addTable table).keeps based

/-- The tables of moves leave those that are there, and there is still room. -/
theorem keeps_addMoves (slot : Nat) (moves : List Move) :
    base ≤ (store.addMoves slot moves).2.tables.size ∧
      store.Keeps base (store.addMoves slot moves).2 := by
  have fresh := (Undisturbed.refl (Nat.lt_of_lt_of_le based room)).addMoves slot moves
  exact ⟨Nat.le_trans room fresh.size, fresh.keeps based⟩

/-- So do the tables of an entity. -/
theorem keeps_addEntity (entity : Entity) :
    base ≤ (store.addEntity entity).2.tables.size ∧
      store.Keeps base (store.addEntity entity).2 := by
  have fresh := ((Undisturbed.refl (Nat.lt_of_lt_of_le based room)).addEntity entity).1
  exact ⟨Nat.le_trans room fresh.size, fresh.keeps based⟩

omit based in
/-- A move comes in a table that shows it. -/
theorem addMove_shows (move : Move) :
    ShowsMove base (store.addMove move).2 (store.addMove move).1 move where
  own := room
  id := Store.read_addRecord (by simp) (by simp) rfl store
  pp := Store.read_addRecord (by simp) (by simp) rfl store
  maxPp := Store.read_addRecord (by simp) (by simp) rfl store

omit based in
/-- An item comes in a table that shows it. -/
theorem addItem_shows (item : Item) :
    ShowsItem base (store.addItem item).2 (store.addItem item).1 item where
  own := room
  id := Store.read_addRecord (by simp) (by simp) rfl store
  quantity := Store.read_addRecord (by simp) (by simp) rfl store

omit based room in
/-- The moves are put at one key after another. -/
theorem addMoves_keys (store : Store) (slot : Nat) (moves : List Move) :
    (store.addMoves slot moves).1.map (·.1) =
      (List.range' slot moves.length).map fun n : Nat => Key.whole n := by
  induction moves generalizing store slot with
  | nil => rfl
  | cons move rest ih => exact congrArg (Key.whole slot :: ·) (ih (store.addMove move).2 (slot + 1))

/-- Each move comes in a table that shows it. -/
theorem addMoves_shows (slot : Nat) (moves : List Move) {n : Nat} {move : Move}
    (known : moves[n]? = some move) : ∃ entry,
      (.whole (slot + n : Nat), .table entry) ∈ (store.addMoves slot moves).1 ∧
        ShowsMove base (store.addMoves slot moves).2 entry move := by
  induction moves generalizing store slot n with
  | nil => simp at known
  | cons first rest ih =>
    have room' := (keeps_addMoves based room slot [first]).1
    cases n with
    | zero =>
      obtain rfl : first = move := Option.some.inj known
      -- The tables of the other moves come behind.
      have keeps := (keeps_addMoves based room' (slot + 1) rest).2
      exact ⟨_, .head _, (addMove_shows room first).kept keeps⟩
    | succ n =>
      obtain ⟨entry, listed, shown⟩ := ih room' (slot + 1) known
      rw [Nat.add_right_comm] at listed
      exact ⟨entry, .tail _ listed, shown⟩

/-- The moves come in a table that lists them from 1 on. -/
theorem listMoves_shows (moves : List Move) :
    let added := store.addMoves 1 moves
    let listed := added.2.addTable (.holding added.1)
    ShowsMoves base listed.2 listed.1 moves := by
  intro added listed
  have room' := (keeps_addMoves based room 1 moves).1
  refine ⟨room', fun slot move known => ?_⟩
  obtain ⟨entry, member, shown⟩ := addMoves_shows based room 1 moves known
  refine ⟨entry, ?_, shown.kept (keeps_addTable based room' _)⟩
  rw [Store.get_addTable, Nat.add_comm slot 1]
  refine Table.get_holding ?_ member rfl
  -- Numbers in a row are different keys.
  rw [addMoves_keys]
  have whole : Function.Injective fun n : Nat => Key.whole n :=
    fun n m same => Int.ofNat_inj.mp (Key.whole.inj same)
  exact List.Nodup.map whole (List.nodup_range' ..)

/-- An entity comes in a table that shows it. -/
theorem addEntity_shows (entity : Entity) :
    ShowsEntity base (store.addEntity entity).2 (store.addEntity entity).1 entity := by
  obtain ⟨valid, monster⟩ := entity
  cases monster with
  | none => exact ⟨room, Store.read_addRecord (by simp) (by simp) rfl store, nofun⟩
  | some monster =>
    let added := store.addMoves 1 monster.moves
    let listed := added.2.addTable (.holding added.1)
    have room' : base ≤ listed.2.tables.size := by
      have before : base ≤ added.2.tables.size := (keeps_addMoves based room 1 monster.moves).1
      exact Nat.le_trans before (by simp [listed, Store.addTable])
    refine ⟨room', Store.read_addRecord (by simp) (by simp) rfl listed.2, ?_⟩
    rintro _ ⟨⟩
    refine ⟨room', ?_, ?_, ?_, ?_, ?_, ?_, ?_, listed.1, ?list, ?moves⟩
    case list =>
      refine Store.read_addRecord (by simp) ?_ rfl listed.2
      simp [listed, added, Store.addTable]
    case moves =>
      -- The table of the entity is added behind the list.
      exact (listMoves_shows based room monster.moves).kept (keeps_addTable based room' _)
    all_goals exact Store.read_addRecord (by simp) (by simp) rfl listed.2

/-- The use of an item comes in tables that show it. -/
theorem offerItem_shows (thrown : Bool) (use : ItemUse) :
    let offered := offerItem thrown use store
    ∃ user target item,
      offered.args = [.table user, .table target, .table item, .bool thrown] ∧
        ShowsItemUse base offered.store user target item use := by
  obtain ⟨room', -⟩ := keeps_addEntity based room use.user
  obtain ⟨room'', keeps⟩ := keeps_addEntity based room' use.target
  have keeps' := keeps_addTable based room''
  refine ⟨_, _, _, rfl, ?_, ?_, addItem_shows room'' use.item⟩
  · exact ((addEntity_shows based room use.user).kept keeps).kept (keeps' _)
  · exact (addEntity_shows based room' use.target).kept (keeps' _)

/-- The use of a move comes in tables that show it. -/
theorem offerMove_shows (use : MoveUse) :
    let offered := offerMove use store
    ∃ user target move,
      offered.args = [.table user, .table target, .table move] ∧
        ShowsMoveUse base offered.store user target move use := by
  obtain ⟨room', -⟩ := keeps_addEntity based room use.user
  obtain ⟨room'', keeps⟩ := keeps_addEntity based room' use.target
  have keeps' := keeps_addTable based room''
  refine ⟨_, _, _, rfl, ?_, ?_, addMove_shows room'' use.used⟩
  · exact ((addEntity_shows based room use.user).kept keeps).kept (keeps' _)
  · exact (addEntity_shows based room' use.target).kept (keeps' _)

end

end DungeonHooks.Script
