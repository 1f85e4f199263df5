import DungeonHooks.Text.Utf8

/-! Bytes seen as letters: each byte as the character of its number. -/

namespace DungeonHooks.Text

/-- The character of a byte's number. -/
def letter (b : UInt8) : Char :=
  Char.ofNat b.toNat

/-- The byte of a character below 256. -/
def byte (c : Char) : UInt8 :=
  UInt8.ofNat c.toNat

/-- Some bytes as letters. -/
def letters (bytes : List UInt8) : List Char :=
  bytes.map letter

/-- Some letters as bytes. -/
def bytesOf (cs : List Char) : List UInt8 :=
  cs.map byte

/-- Whether a letter is one of the six blanks: space, tab, both vertical feeds, and both line ends. -/
def isSpace (c : Char) : Bool :=
  c == ' ' || ('\t' ≤ c && c ≤ '\r')

/-- Whether a letter is one of the 26, in either case. -/
def isAlpha (c : Char) : Bool :=
  ('a' ≤ c && c ≤ 'z') || ('A' ≤ c && c ≤ 'Z')

/-- Whether a letter may stand in a name. -/
def isWord (c : Char) : Bool :=
  isAlpha c || c.isDigit || c == '_'

/-- Whether a letter is a control character. -/
def isControl (c : Char) : Bool :=
  c < ' ' || c == '\x7f'

/-- The value of a hexadecimal digit. -/
def hexValue (c : Char) : Option Nat :=
  if c.isDigit then some (c.toNat - '0'.toNat)
  else if 'a' ≤ c ∧ c ≤ 'f' then some (c.toNat - 'a'.toNat + 10)
  else if 'A' ≤ c ∧ c ≤ 'F' then some (c.toNat - 'A'.toNat + 10)
  else none

/-- A letter in lower case. -/
def lower (c : Char) : Char :=
  if 'A' ≤ c && c ≤ 'Z' then Char.ofNat (c.toNat + 32) else c

/-- What follows a word at the start of some letters, whatever their case. -/
def afterWord? : List Char → List Char → Option (List Char)
  | [], cs => some cs
  | _ :: _, [] => none
  | w :: word, c :: cs => if lower c == w then afterWord? word cs else none

end DungeonHooks.Text
