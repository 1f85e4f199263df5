import DungeonHooks.Script.Resolver

/-! What a call of a handler is given is new, and out of the way of all that the script keeps. -/

namespace DungeonHooks.Script

namespace Table

/-- Putting an entry does not change what another key is found to have. -/
theorem lookup_putEntry_ne {key other : Key} (distinct : other ≠ key) (value : Value)
    (entries : List (Key × Value)) :
    (putEntry key value entries).lookup other = entries.lookup other := by
  have apart : (other == key) = false := beq_false_of_ne distinct
  induction entries with
  | nil => simp [putEntry, List.lookup_cons, apart]
  | cons entry rest ih =>
    obtain ⟨known, held⟩ := entry
    unfold putEntry
    split
    case isTrue same =>
      obtain rfl : known = key := by simpa using same
      simp [List.lookup_cons, apart]
    case isFalse => simp only [List.lookup_cons, ih]

/-- Taking an entry away does not change what another key is found to have. -/
theorem lookup_remove_ne {key other : Key} (distinct : other ≠ key)
    (entries : List (Key × Value)) :
    (entries.filter fun entry => entry.1 != key).lookup other = entries.lookup other := by
  have apart : (other == key) = false := beq_false_of_ne distinct
  induction entries with
  | nil => rfl
  | cons entry rest ih =>
    obtain ⟨known, held⟩ := entry
    by_cases same : known = key
    · subst same
      simp [List.lookup_cons, apart, ih]
    · simp [List.lookup_cons, same, ih]

/-- A table gives other keys what it gave them before one of them was set. -/
theorem get_set_ne {key other : Key} (distinct : other ≠ key) (table : Table) (value : Value) :
    (table.set key value).get other = table.get other := by
  unfold get set
  dsimp only
  split
  · rw [lookup_remove_ne distinct]
  · rw [lookup_putEntry_ne distinct]

end Table

/-- The handler of an id is what the table of its registry has for it, if that is a function. -/
theorem Store.handler_eq {store : Store} {registry : Registry} {table : Nat}
    (registered : store.global registry.name = .table table) (id : Nat) :
    store.handler registry id =
      match store.get table (.whole id) with
      | .nil => .ok none
      | value =>
        if value.isFunction then .ok (some value)
        else .error (value.misfit .function .otherType) := by
  simp only [handler, Store.registry, registered]
  rfl

/-- A registry with a single function in it has a handler for a single id. -/
theorem Store.handler_of_single {store : Store} {registry : Registry} {table : Nat} {number : Int}
    {value : Value} (registered : store.global registry.name = .table table)
    (only : (store.table table).entries = [(.whole number, value)])
    (function : value.isFunction = true) (id : Nat) :
    store.handler registry id = .ok (if (id : Int) = number then some value else none) := by
  rw [handler_eq registered, get, Table.get, only]
  by_cases known : (id : Int) = number
  · subst known
    cases value <;> simp_all [Value.isFunction]
  · have apart : (Key.whole id == Key.whole number) = false :=
      beq_false_of_ne (by simpa using known)
    simp [List.lookup_cons, apart, known]

/-- All that the first store keeps is in the second as it was, but for the global through which services are offered. -/
structure Undisturbed (store later : Store) : Prop where
  based : 0 < store.tables.size
  size : store.tables.size ≤ later.tables.size
  tables : ∀ id, id ≠ Store.globals → id < store.tables.size → later.table id = store.table id
  globals : ∀ key, key ≠ Store.field "host" →
    later.get Store.globals key = store.get Store.globals key
  closures : ∀ id, id < store.closures.size → later.closures[id]? = store.closures[id]?

namespace Undisturbed

variable {store later : Store}

/-- Nothing is disturbed if nothing happens. -/
theorem refl (based : 0 < store.tables.size) : Undisturbed store store :=
  ⟨based, Nat.le_refl _, fun _ _ _ => rfl, fun _ _ => rfl, fun _ _ => rfl⟩

variable (kept : Undisturbed store later)

include kept

/-- It is enough that the tables that are kept stay the same. -/
theorem of_tables {after : Store} (size : later.tables.size ≤ after.tables.size)
    (tables : ∀ id, id < store.tables.size → after.table id = later.table id)
    (closures : after.closures = later.closures) : Undisturbed store after where
  based := kept.based
  size := Nat.le_trans kept.size size
  tables id other old := (tables id old).trans (kept.tables id other old)
  globals key other := by
    rw [Store.get, tables Store.globals kept.based]
    exact kept.globals key other
  closures id old := by rw [closures, kept.closures id old]

/-- A new table is none of those that are kept. -/
theorem addTable (table : Table) : Undisturbed store (later.addTable table).2 := by
  refine kept.of_tables (by simp [Store.addTable]) (fun id old => ?_) rfl
  have inside : id ≠ later.tables.size := Nat.ne_of_lt (Nat.lt_of_lt_of_le old kept.size)
  simp [Store.addTable, Store.table, Array.getD_eq_getD_getElem?, Array.getElem?_push, inside]

/-- Neither is one that was added since. -/
theorem set {id : Nat} (new : store.tables.size ≤ id) (key : Key) (value : Value) :
    Undisturbed store (later.set id key value) := by
  refine kept.of_tables (by simp [Store.set]) (fun other old => ?_) rfl
  have apart : id ≠ other := Nat.ne_of_gt (Nat.lt_of_lt_of_le old new)
  simp [Store.set, Store.table, Array.getD_eq_getD_getElem?, Array.getElem?_modify, apart]

/-- A new variable is in no table. -/
theorem addCell (value : Value) : Undisturbed store (later.addCell value).2 :=
  kept.of_tables (Nat.le_refl _) (fun _ _ => rfl) rfl

/-- The services are offered through a global that is not kept. -/
theorem setHost (value : Value) : Undisturbed store (later.setGlobal "host" value) := by
  have size := kept.size
  have based : Store.globals < later.tables.size := Nat.lt_of_lt_of_le kept.based size
  refine ⟨kept.based, by simpa [Store.setGlobal, Store.set] using size, fun id other old => ?_,
    fun key other => ?_, kept.closures⟩
  · rw [← kept.tables id other old]
    simp [Store.setGlobal, Store.set, Store.table, Array.getD_eq_getD_getElem?,
      Array.getElem?_modify, other.symm]
  · rw [← kept.globals key other, Store.get, Store.get]
    have set : (later.setGlobal "host" value).table Store.globals =
        (later.table Store.globals).set (Store.field "host") value := by
      simp [Store.setGlobal, Store.set, Store.table, Array.getD_eq_getD_getElem?,
        Array.getElem_modify, based]
    rw [set, Table.get_set_ne other]

/-- A handler keeps to the services that it is offered. -/
theorem offer : Undisturbed store later.offer := by
  unfold Store.offer Store.addRecord
  dsimp only
  refine Undisturbed.setHost ?_ _
  -- That services are offered is counted, which no table has a part in.
  exact (kept.addTable _).of_tables (Nat.le_refl _) (fun _ _ => rfl) rfl

/-- When it is over, they are taken back. -/
theorem withdraw : Undisturbed store later.withdraw := by
  unfold Store.withdraw
  refine Undisturbed.setHost ?_ .nil
  exact kept.of_tables (Nat.le_refl _) (fun _ _ => rfl) rfl

/-- Moves come in tables of their own. -/
theorem addMoves (slot : Nat) (moves : List Move) :
    Undisturbed store (later.addMoves slot moves).2 := by
  induction moves generalizing later slot with
  | nil => exact kept
  | cons move rest ih => exact ih (kept.addTable _) (slot + 1)

/-- An entity comes in a table of its own, which is a new one. -/
theorem addEntity (entity : Entity) :
    Undisturbed store (later.addEntity entity).2 ∧
      store.tables.size ≤ (later.addEntity entity).1 := by
  unfold Store.addEntity
  cases entity.monster with
  | none => exact ⟨kept.addTable _, kept.size⟩
  | some monster =>
    have moves := (kept.addMoves 1 monster.moves).addTable
    exact ⟨(moves _).addTable _, (moves _).size⟩

/-- The use of a move is offered in new tables. -/
theorem offerMove (use : MoveUse) : Undisturbed store (offerMove use later).store :=
  ((kept.addEntity use.user).1.addEntity use.target).1.addTable _

/-- The use of an item is offered in new tables. -/
theorem offerItem (thrown : Bool) (use : ItemUse) :
    Undisturbed store (offerItem thrown use later).store :=
  ((kept.addEntity use.user).1.addEntity use.target).1.addTable _

/-- So the same handlers are registered, in a table that the script keeps. -/
theorem handler (registry : Registry) (id : Nat) {table : Nat}
    (registered : store.global registry.name = .table table) (apart : table ≠ Store.globals)
    (old : table < store.tables.size) : later.handler registry id = store.handler registry id := by
  have same : later.global registry.name = .table table :=
    (kept.globals _ (by cases registry <;> decide)).trans registered
  rw [Store.handler_eq same, Store.handler_eq registered, Store.get, kept.tables table apart old,
    Store.get]

end Undisturbed

end DungeonHooks.Script
