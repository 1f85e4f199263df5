import DungeonHooks.Script.Value

/-! Tables of scripts, and the border that the length operator finds in them. -/

namespace DungeonHooks.Script

/-- How the entries of a table are laid out. It decides which border is found in a table with gaps. -/
structure Layout where
  /-- The keys from 1 up to here have a place in the sequence, whether they hold a value or not. -/
  sequence : Nat := 0
  /-- How many other keys there is room for. -/
  room : Nat := 0
  /-- The other keys, among them such as no longer hold a value. -/
  keys : List Key := []
  deriving DecidableEq, Inhabited

/-- A table. No entry holds nil, and no key has two entries. -/
structure Table where
  entries : List (Key × Value) := []
  layout : Layout := {}
  deriving Inhabited

/-- The smallest power of two that is not below a number. -/
def powerAbove (n : Nat) : Nat :=
  if n ≤ 1 then n else 1 <<< ((n - 1).log2 + 1)

namespace Table

/-- The value of a key, nil if there is none. -/
def get (table : Table) (key : Key) : Value :=
  (table.entries.lookup key).getD .nil

/-- Whether a whole number is a key with a value. -/
def has (table : Table) (n : Nat) : Bool :=
  (table.entries.lookup (.whole n)).isSome

/-- Whether a key has a place in the sequence. -/
def inSequence (size : Nat) : Key → Bool
  | .whole n => 1 ≤ n && n ≤ size
  | _ => false

/-- The number of keys that are whole numbers from 1 up to a bound. -/
def countUpTo (keys : List Key) (bound : Nat) : Nat :=
  keys.countP (inSequence bound)

/-- The largest power of two, of those up to a bound, of which more than half would be in use as a sequence. -/
def sequenceFor (keys : List Key) : Nat → Nat
  | 0 => if 0 < countUpTo keys 1 then 1 else 0
  | n + 1 =>
    let size := 1 <<< n
    if size < countUpTo keys (2 * size) then 2 * size else sequenceFor keys n

/-- The layout anew, for all keys in use and one more. -/
def relaid (keys : List Key) (key : Key) : Layout :=
  let all := key :: keys
  -- A sequence of which more than half is in use is at most twice as long as there are keys.
  let sequence := sequenceFor all (all.length.log2 + 1)
  let others := all.filter fun key => !inSequence sequence key
  { sequence, room := powerAbove others.length, keys := others }

/-- Finds a place for a key that gets a value. -/
def place (table : Table) (key : Key) : Layout :=
  let layout := table.layout
  if inSequence layout.sequence key || layout.keys.contains key then layout
  else if layout.keys.length < layout.room then { layout with keys := key :: layout.keys }
  else relaid (table.entries.map (·.1)) key

/-- The entries with one put in place of another, or at the end. -/
def putEntry (key : Key) (value : Value) : List (Key × Value) → List (Key × Value)
  | [] => [(key, value)]
  | (k, v) :: rest => if k == key then (key, value) :: rest else (k, v) :: putEntry key value rest

/-- Gives a key a value; nil takes it away. -/
def set (table : Table) (key : Key) (value : Value) : Table :=
  { entries :=
      if value.isNil then table.entries.filter fun entry => entry.1 != key
      else putEntry key value table.entries
    layout := table.place key }

/-- An empty table with room for a sequence and for other keys. -/
def withRoom (sequence others : Nat) : Table :=
  { layout := { sequence, room := powerAbove others } }

/-- Makes some values the first ones of the sequence, which has room for them all. -/
def setItems (table : Table) (items : List Value) : Table :=
  let sequence := max table.layout.sequence items.length
  let table := { table with layout := { table.layout with sequence } }
  (items.zipIdx 1).foldl (fun table (value, n) => table.set (.whole n) value) table

/-- A border between two bounds, of which the lower has a value or is 0, and the upper has none. -/
def borderBetween (table : Table) : Nat → Nat → Nat → Nat
  | 0, low, _ => low
  | fuel + 1, low, high =>
    if high - low ≤ 1 then low
    else
      let middle := (low + high) / 2
      if table.has middle then table.borderBetween fuel middle high
      else table.borderBetween fuel low middle

/-- A border behind a key that has a value, or 0: keys are doubled until one has no value. -/
def borderBehind (table : Table) : Nat → Nat → Nat → Nat
  | 0, low, _ => low
  | fuel + 1, low, high =>
    if table.has high then table.borderBehind fuel high (2 * high)
    else table.borderBetween high low high

/-- A border of the table: a key with a value, or 0, before one without. -/
def border (table : Table) : Nat :=
  let size := table.layout.sequence
  if 0 < size && !table.has size then table.borderBetween size 0 size
  else if table.layout.room == 0 then size
  else table.borderBehind (table.entries.length + 1) size (size + 1)

end Table

end DungeonHooks.Script
