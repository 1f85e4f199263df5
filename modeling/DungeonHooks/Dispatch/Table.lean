import DungeonHooks.Saturating

/-! Handler tables: fixed lists of records that consecutive external ids map onto. -/

namespace DungeonHooks

/-- What a table holds. -/
inductive TableKind where
  | instructions
  | menus
  deriving DecidableEq, Inhabited

/-- The name of a kind. -/
def TableKind.name : TableKind → String
  | .instructions => "instructions"
  | .menus => "menus"

/-- The words a message uses for a table of the kind. -/
def TableKind.label : TableKind → String
  | .instructions => "custom instruction"
  | .menus => "custom script menu"

/-- The display text of a kind. -/
def TableKind.describe : TableKind → String
  | .instructions => "Instructions"
  | .menus => "Menus"

/-- An index that a table has no record for. -/
structure OutOfRange where
  table : TableKind
  index : Int32
  len : Nat
  deriving DecidableEq, Inhabited

/-- The text of the error. -/
def OutOfRange.message (error : OutOfRange) : String :=
  s!"{error.table.label} index {error.index.toInt} out of bounds "
    ++ s!"(table holds {error.len} entries)"

/-- Records in order; the first has the external id `firstId`, the next the one after, and so on. -/
structure HandlerTable (α : Type) where
  kind : TableKind
  firstId : Int32
  records : List α

namespace HandlerTable

variable {α : Type}

/-- The number of records. -/
def len (table : HandlerTable α) : Nat :=
  table.records.length

/-- Whether there is no record. -/
def isEmpty (table : HandlerTable α) : Bool :=
  table.records.isEmpty

/-- The index an external id would have. It saturates, so an id far off still lies outside. -/
def indexOf (table : HandlerTable α) (externalId : Int32) : Int32 :=
  saturatingSub externalId table.firstId

/-- The external id of an index, whose low 32 bits count. -/
def externalId (table : HandlerTable α) (index : Nat) : Int32 :=
  saturatingAdd table.firstId (Int32.ofNat index)

/-- The record at an index, if the table has one. -/
def record? (table : HandlerTable α) (index : Int32) : Option α :=
  if index < 0 then none else table.records[index.toInt.toNat]?

/-- Whether an index counts to a place of the table. -/
def contains (table : HandlerTable α) (index : Int32) : Bool :=
  0 ≤ index && index.toInt.toNat < table.len

/-- The record at an index, or the index as an error. -/
def get (table : HandlerTable α) (index : Int32) : Except OutOfRange α :=
  match table.record? index with
  | some record => .ok record
  | none => .error { table := table.kind, index, len := table.len }

/-- The record of an external id. -/
def lookup (table : HandlerTable α) (externalId : Int32) : Except OutOfRange α :=
  table.get (table.indexOf externalId)

/-- The records with their external ids, in table order. -/
def toList (table : HandlerTable α) : List (Int32 × α) :=
  table.records.zipIdx.map fun (record, index) => (table.externalId index, record)

/-- The display text of a table, which leaves out its records. -/
def describe (table : HandlerTable α) : String :=
  s!"HandlerTable \x7b kind: {table.kind.describe}, first_id: {table.firstId.toInt}, "
    ++ s!"len: {table.len} \x7d"

end HandlerTable

end DungeonHooks
