import DungeonHooks.Json.Number
import DungeonHooks.Json.Text

/-! Documents as trees. A tree is built without knowing what is wanted, so it records where the text breaks off. -/

namespace DungeonHooks.Json

/-- The key of a member. -/
structure Key where
  /-- The characters after the opening quote, up to the closing one if there is one. -/
  raw : List Char
  text : Except Fault String
  /-- Why there is no closing quote. -/
  unclosed : Option Fault := none

mutual

/-- A value of a document. -/
inductive Node where
  | null
  | bool (value : Bool)
  /-- A number; it may be out of range, which only its reader minds. -/
  | number (value : Except Fault Number)
  /-- A string; its escapes may make no characters, which only its reader minds. -/
  | text (value : Except Fault String)
  | list (items : Items)
  | record (members : Members)
  /-- A value that is not there, or breaks off. -/
  | broken (place : Break)

/-- The elements of a list. -/
inductive Items where
  | close
  | stop (place : Break)
  | item (node : Node) (rest : Items)

/-- The members of an object. -/
inductive Members where
  | close
  | stop (place : Break)
  | member (key : Key) (node : Node) (rest : Members)

end

mutual

/-- What is wrong with a value for a reader that skips it. -/
def Node.skip : Node → Option Fault
  | .list items => items.skip
  | .record members => members.skip
  | .broken place => some place.skipped
  | _ => none

/-- What is wrong with the elements of a list that is skipped. -/
def Items.skip : Items → Option Fault
  | .close => none
  | .stop place => some place.skipped
  | .item node rest => node.skip <|> rest.skip

/-- What is wrong with the members of an object that is skipped. -/
def Members.skip : Members → Option Fault
  | .close => none
  | .stop place => some place.skipped
  | .member key node rest => key.unclosed <|> node.skip <|> rest.skip

end

/-- The containers that may still be opened, one less than before. -/
def deeper (depth : Nat) : Except Fault Nat :=
  if depth ≤ 1 then .error .recursionLimit else .ok (depth - 1)

mutual

/-- Reads a value whole without knowing what is wanted, so that it can be kept aside. -/
def Node.keep (depth : Nat) : Node → Except Fault Unit
  | .number value => value.map fun _ => ()
  | .text value => value.map fun _ => ()
  | .list items => do items.keep (← deeper depth)
  | .record members => do members.keep (← deeper depth)
  | .broken place => .error place.read
  | _ => .ok ()

/-- Reads the elements of a list whole. -/
def Items.keep (depth : Nat) : Items → Except Fault Unit
  | .close => .ok ()
  | .stop place => .error place.read
  | .item node rest => do
    node.keep depth
    rest.keep depth

/-- Reads the members of an object whole. -/
def Members.keep (depth : Nat) : Members → Except Fault Unit
  | .close => .ok ()
  | .stop place => .error place.read
  | .member key node rest => do
    discard key.text
    node.keep depth
    rest.keep depth

end

end DungeonHooks.Json
