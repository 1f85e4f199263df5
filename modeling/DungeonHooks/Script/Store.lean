import DungeonHooks.Script.Table

/-! All that a script keeps between its calls: tables, variables and functions. -/

namespace DungeonHooks.Script

/-- The variables in scope, the innermost first, each with the number of its cell. -/
abbrev Names := List (String × Nat)

/-- A function with the variables that were in scope where it was made. -/
structure Closure where
  body : FunctionBody
  captured : Names
  deriving Inhabited

/-- The store of a script. Nothing in it is ever dropped, so a number always names the same thing. -/
structure Store where
  /-- The name of the script, as positions in it show it. -/
  chunk : List UInt8
  tables : Array Table := #[{}]
  closures : Array Closure := #[]
  cells : Array Value := #[]
  /-- How many calls have been offered the services of the host. -/
  sessions : Nat := 0
  /-- Whether the last of them is still under way. -/
  serving : Bool := false
  deriving Inhabited

namespace Store

/-- The number of the table of globals, which is always the first one. -/
def globals : Nat := 0

/-- A table by its number. -/
def table (store : Store) (id : Nat) : Table :=
  store.tables.getD id {}

/-- Adds a table. -/
def addTable (store : Store) (table : Table) : Nat × Store :=
  (store.tables.size, { store with tables := store.tables.push table })

/-- The value of a key in a table. -/
def get (store : Store) (id : Nat) (key : Key) : Value :=
  (store.table id).get key

/-- Gives a key in a table a value. -/
def set (store : Store) (id : Nat) (key : Key) (value : Value) : Store :=
  { store with tables := store.tables.modify id fun table => table.set key value }

/-- Makes some values the first ones of a table's sequence, which has room for them. -/
def setItems (store : Store) (id : Nat) (items : List Value) : Store :=
  { store with tables := store.tables.modify id fun table => table.setItems items }

/-- Adds a function. -/
def addClosure (store : Store) (closure : Closure) : Nat × Store :=
  (store.closures.size, { store with closures := store.closures.push closure })

/-- Adds a variable. -/
def addCell (store : Store) (value : Value) : Nat × Store :=
  (store.cells.size, { store with cells := store.cells.push value })

/-- The value of a variable. -/
def cell (store : Store) (id : Nat) : Value :=
  store.cells.getD id .nil

/-- Gives a variable a value. -/
def setCell (store : Store) (id : Nat) (value : Value) : Store :=
  { store with cells := store.cells.setIfInBounds id value }

/-- The key that a name is. -/
def field (name : String) : Key :=
  .text (Text.utf8 name)

/-- The value of a global. -/
def global (store : Store) (name : String) : Value :=
  store.get globals (field name)

/-- Gives a global a value. -/
def setGlobal (store : Store) (name : String) (value : Value) : Store :=
  store.set globals (field name) value

/-- Adds a table with named entries. -/
def addRecord (store : Store) (fields : List (String × Value)) : Nat × Store :=
  store.addTable (fields.foldl (fun table (name, value) => table.set (field name) value) {})

/-- The functions that are there from the start. -/
def builtins : List (String × Builtin) :=
  [("error", .error), ("pcall", .pcall), ("tostring", .tostring), ("ipairs", .ipairs)]

/-- The functions on numbers. -/
def mathBuiltins : List (String × Builtin) :=
  [("floor", .floor), ("max", .max), ("min", .min)]

/-- The store in which a script of a name starts. -/
def start (chunk : List UInt8) : Store :=
  let store : Store := builtins.foldl (fun store (name, b) => store.setGlobal name (.builtin b))
    { chunk }
  let (math, store) := store.addRecord (mathBuiltins.map fun (name, b) => (name, .builtin b))
  store.setGlobal "math" (.table math)

end Store

end DungeonHooks.Script
