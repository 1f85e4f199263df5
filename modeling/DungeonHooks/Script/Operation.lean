import DungeonHooks.Script.Frame

/-! What operators, indices and assignments do to values. -/

namespace DungeonHooks.Script

/-- Applies an operation to two numbers. -/
def ArithmeticOp.apply : ArithmeticOp → Number → Number → Number
  | .add => Number.add
  | .sub => Number.sub
  | .mul => Number.mul
  | .div => Number.div
  | .mod => Number.mod
  | .pow => Number.pow

/-- Whether the first bytes come before the others. -/
def bytesBefore : List UInt8 → List UInt8 → Bool
  | [], [] => false
  | [], _ :: _ => true
  | _ :: _, [] => false
  | a :: as, b :: bs => a < b || (a == b && bytesBefore as bs)

/-- An order of two values, by numbers or by texts; values of other types have none. -/
def ordered (line : Nat) (numbers : Number → Number → Bool)
    (texts : List UInt8 → List UInt8 → Bool) (a b : Value) : Run Value :=
  match a, b with
  | .number m, .number n => return .bool (numbers m n)
  | .text m, .text n => return .bool (texts m n)
  | a, b => Run.fail line (.compared a.typeName b.typeName)

/-- Compares two values. -/
def Comparison.apply (op : Comparison) (line : Nat) (a b : Value) : Run Value :=
  let notAfter := fun m n => !bytesBefore n m
  match op with
  | .eq => return .bool (a.eq b)
  | .ne => return .bool !(a.eq b)
  | .lt => ordered line Number.lt bytesBefore a b
  | .le => ordered line Number.le notAfter a b
  | .gt => ordered line Number.lt bytesBefore b a
  | .ge => ordered line Number.le notAfter b a

/-- The value that is found in another by a key. Texts have no entries of their own. -/
def lookUp (line : Nat) (origin : Option Origin) (owner key : Value) : Run Value :=
  match owner with
  | .table id => do
    let some key := key.key? | return .nil
    return (← Run.store).get id key
  | .text _ => return .nil
  | owner => Run.fail line (.refused .index origin owner.typeName)

/-- Gives a key in a table a value. -/
def putEntry (line : Nat) (id : Nat) (key value : Value) : Run Unit :=
  match key.key? with
  | some key => Run.update fun store => store.set id key value
  | none => Run.fail line (if key.isNil then .nilKey else .nanKey)

/-- What an assignment stores to. -/
inductive Slot where
  | cell (id : Nat)
  | global (name : String)
  | entry (owner key : Value) (origin : Option Origin)

/-- Stores a value. -/
def Slot.put (line : Nat) (slot : Slot) (value : Value) : Run Unit :=
  match slot with
  | .cell id => Run.update fun store => store.setCell id value
  | .global name => Run.update fun store => store.setGlobal name value
  | .entry (.table id) key _ => putEntry line id key value
  | .entry owner _ origin => Run.fail line (.refused .index origin owner.typeName)

/-- Stores values, the last one first. -/
def putAll (line : Nat) : List (Slot × Value) → Run Unit
  | [] => return ()
  | (slot, value) :: rest => do
    putAll line rest
    slot.put line value

/-- Values brought to a count: further ones are dropped, missing ones are nil. -/
def adjusted (count : Nat) (values : List Value) : List Value :=
  values.take count ++ List.replicate (count - values.length) .nil

/-- Applies an operation to two values that are numbers or the texts of some. -/
def arithmetic (op : ArithmeticOp) (line : Nat) (left right : Option Origin) (a b : Value) :
    Run Value :=
  match a.toNumber?, b.toNumber? with
  | some m, some n => return .number (op.apply m n)
  | some _, none => Run.fail line (.refused .arithmetic right b.typeName)
  | none, _ => Run.fail line (.refused .arithmetic left a.typeName)

/-- Applies an operation to one value. -/
def UnaryOp.apply (op : UnaryOp) (line : Nat) (origin : Option Origin) (a : Value) : Run Value :=
  match op with
  | .negation => return .bool !a.isTrue
  | .minus =>
    match a.toNumber? with
    | some n => return .number n.neg
    | none => Run.fail line (.refused .arithmetic origin a.typeName)
  | .length =>
    match a with
    | .text bytes => return .ofInt bytes.length
    | .table id => do return .ofInt ((← Run.store).table id).border
    | a => Run.fail line (.refused .length origin a.typeName)

/-- Puts texts together, from the last one on. -/
def concatenate (line : Nat) : List (Value × Option Origin) → Run (Value × Option Origin)
  | [] => return (.text [], none)
  | [last] => return last
  | (a, origin) :: rest => do
    let (b, later) ← concatenate line rest
    match a.toBytes?, b.toBytes? with
    | some m, some n => return (.text (m ++ n), none)
    | some _, none => Run.fail line (.refused .concatenate later b.typeName)
    | none, _ => Run.fail line (.refused .concatenate origin a.typeName)

end DungeonHooks.Script
