import DungeonHooks.Text.Unprintable

/-! Display text of strings: in quotes, with everything that does not print written as an escape. -/

namespace DungeonHooks.Text

/-- A number in lower-case hexadecimal digits. -/
def hex (n : Nat) : String :=
  String.ofList (Nat.toDigits 16 n)

/-- One character as it stands between quotes. -/
def escapeChar (c : Char) : String :=
  match c with
  | '\x00' => "\\0"
  | '\t' => "\\t"
  | '\r' => "\\r"
  | '\n' => "\\n"
  | '"' => "\\\""
  | '\\' => "\\\\"
  | c => if isUnprintable c then s!"\\u\x7b{hex c.toNat}\x7d" else c.toString

/-- The display text of a string. -/
def quoted (s : String) : String :=
  "\"" ++ String.join (s.toList.map escapeChar) ++ "\""

end DungeonHooks.Text
