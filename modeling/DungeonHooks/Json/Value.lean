import DungeonHooks.Text.Quoted

/-! Values to be written, and how they are laid out over lines. -/

namespace DungeonHooks.Json

/-- A value to be written. The members of an object keep their order. -/
inductive Value where
  | null
  | bool (value : Bool)
  | number (value : Int)
  | text (value : String)
  | list (items : List Value)
  | record (members : List (String × Value))
  deriving Inhabited

/-- An optional value; nothing is written as null. -/
def Value.ofOption {α : Type} (encode : α → Value) : Option α → Value
  | none => .null
  | some value => encode value

/-- A list of values of one kind. -/
def Value.ofList {α : Type} (encode : α → Value) (values : List α) : Value :=
  .list (values.map encode)

/-- A map whose keys are written by name. -/
def Value.ofMap {κ α : Type} (name : κ → String) (encode : α → Value) (entries : List (κ × α)) :
    Value :=
  .record (entries.map fun (key, value) => (name key, encode value))

/-- A member that is left out when there is no value. -/
def Value.member? {α : Type} (name : String) (encode : α → Value) (value : Option α) :
    List (String × Value) :=
  (value.map fun value => (name, encode value)).toList

/-- A hexadecimal number of four digits. -/
def hexCode (n : Nat) : String :=
  let digits := Nat.toDigits 16 n
  String.ofList (List.replicate (4 - digits.length) '0' ++ digits)

/-- One character of a string, as it is written. -/
def writeChar (c : Char) : String :=
  match c with
  | '"' => "\\\""
  | '\\' => "\\\\"
  | '\x08' => "\\b"
  | '\x0c' => "\\f"
  | '\n' => "\\n"
  | '\r' => "\\r"
  | '\t' => "\\t"
  | c => if c < ' ' then "\\u" ++ hexCode c.toNat else c.toString

/-- A string, as it is written. -/
def writeText (s : String) : String :=
  "\"" ++ String.join (s.toList.map writeChar) ++ "\""

/-- A new line, with two blanks for each container that is open. -/
def newline (depth : Nat) : String :=
  "\n" ++ String.ofList (List.replicate (2 * depth) ' ')

mutual

/-- A value over as many lines as it has parts; empty containers stay on one line. -/
def Value.pretty (depth : Nat) : Value → String
  | .null => "null"
  | .bool value => toString value
  | .number value => toString value
  | .text value => writeText value
  | .list [] => "[]"
  | .list (first :: rest) =>
    "[" ++ newline (depth + 1) ++ first.pretty (depth + 1) ++ prettyItems (depth + 1) rest
      ++ newline depth ++ "]"
  | .record [] => "\x7b\x7d"
  | .record ((name, first) :: rest) =>
    "\x7b" ++ newline (depth + 1) ++ writeText name ++ ": " ++ first.pretty (depth + 1)
      ++ prettyMembers (depth + 1) rest ++ newline depth ++ "\x7d"

/-- The elements after the first. -/
def prettyItems (depth : Nat) : List Value → String
  | [] => ""
  | value :: rest => "," ++ newline depth ++ value.pretty depth ++ prettyItems depth rest

/-- The members after the first. -/
def prettyMembers (depth : Nat) : List (String × Value) → String
  | [] => ""
  | (name, value) :: rest =>
    "," ++ newline depth ++ writeText name ++ ": " ++ value.pretty depth
      ++ prettyMembers depth rest

end

end DungeonHooks.Json
