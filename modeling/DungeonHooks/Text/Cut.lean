import DungeonHooks.Text.Utf8

/-! Texts and bytes of bounded length: names cut to whole characters, and bounded comparison. -/

namespace DungeonHooks.Text

/-- The characters that fit into a number of bytes, counted from the front. -/
def fitting : Nat → List Char → List Char
  | _, [] => []
  | limit, c :: rest =>
    if c.utf8Size ≤ limit then c :: fitting (limit - c.utf8Size) rest else []

/-- The longest beginning of a text that is whole characters and at most `limit` bytes. -/
def cut (limit : Nat) (s : String) : String :=
  String.ofList (fitting limit s.toList)

/-- Bytes brought to a fixed length with zeros at the end. -/
def padded (length : Nat) (bytes : List UInt8) : List UInt8 :=
  bytes ++ List.replicate (length - bytes.length) 0

/-- Compares at most `n` bytes up to the first zero, a missing byte counting as zero; the difference of the first two that differ. -/
def compareBounded : Nat → List UInt8 → List UInt8 → Int32
  | 0, _, _ => 0
  | n + 1, typed, expected =>
    let a := typed.headD 0
    let b := expected.headD 0
    if a ≠ b then Int32.ofInt (a.toNat - b.toNat)
    else if a = 0 then 0
    else compareBounded n typed.tail expected.tail

end DungeonHooks.Text
