/-! Text as bytes, and bytes as text where they may not be well formed. -/

namespace DungeonHooks.Text

/-- The bytes of a text. -/
def utf8 (s : String) : List UInt8 :=
  s.toList.flatMap String.utf8EncodeChar

/-- The character shown for bytes that are none. -/
def replacement : Char := '\uFFFD'

/-- Whether a byte continues a character. -/
def isContinuation (b : UInt8) : Bool :=
  0x80 ≤ b && b ≤ 0xBF

/-- Whether a byte may follow the first byte of a character of three or four bytes. -/
def isSecond (first second : UInt8) : Bool :=
  if first == 0xE0 then 0xA0 ≤ second && second ≤ 0xBF
  else if first == 0xED then 0x80 ≤ second && second ≤ 0x9F
  else if first == 0xF0 then 0x90 ≤ second && second ≤ 0xBF
  else if first == 0xF4 then 0x80 ≤ second && second ≤ 0x8F
  else isContinuation second

/-- The character whose code is given by the payload bits of its bytes. -/
def ofPayload (lead : UInt8) (leadBits : Nat) (rest : List UInt8) : Char :=
  Char.ofNat (rest.foldl (fun code b => code * 64 + b.toNat % 64) (lead.toNat % (1 <<< leadBits)))

/-- Reads one character, or the longest piece that no well-formed text begins with; and the number of bytes after the first that belong to it. -/
def readChar (first : UInt8) (rest : List UInt8) : Option Char × Nat :=
  if first < 0x80 then (some (Char.ofNat first.toNat), 0)
  else if 0xC2 ≤ first && first ≤ 0xDF then
    match rest with
    | b :: _ => if isContinuation b then (some (ofPayload first 5 [b]), 1) else (none, 0)
    | [] => (none, 0)
  else if 0xE0 ≤ first && first ≤ 0xEF then
    match rest with
    | b :: c :: _ =>
      if !isSecond first b then (none, 0)
      else if isContinuation c then (some (ofPayload first 4 [b, c]), 2) else (none, 1)
    | [b] => (none, if isSecond first b then 1 else 0)
    | [] => (none, 0)
  else if 0xF0 ≤ first && first ≤ 0xF4 then
    match rest with
    | b :: c :: d :: _ =>
      if !isSecond first b then (none, 0)
      else if !isContinuation c then (none, 1)
      else if isContinuation d then (some (ofPayload first 3 [b, c, d]), 3) else (none, 2)
    | [b, c] => (none, if !isSecond first b then 0 else if isContinuation c then 2 else 1)
    | [b] => (none, if isSecond first b then 1 else 0)
    | [] => (none, 0)
  else (none, 0)

/-- The characters of some bytes, `none` for each ill-formed piece. -/
def decode : List UInt8 → List (Option Char)
  | [] => []
  | first :: rest =>
    let (char, used) := readChar first rest
    char :: decode (rest.drop used)
  termination_by bytes => bytes.length
  decreasing_by simp only [List.length_drop, List.length_cons]; omega

/-- The text of some bytes, with the replacement character for each ill-formed piece. -/
def decodeLossy (bytes : List UInt8) : String :=
  String.ofList ((decode bytes).map (·.getD replacement))

/-- The first piece of bytes that is no character: where it begins, and its length unless the bytes end in it. -/
structure Flaw where
  index : Nat
  length : Option Nat
  deriving DecidableEq, Inhabited

/-- The text of a flaw. -/
def Flaw.message : Flaw → String
  | ⟨index, none⟩ => s!"incomplete utf-8 byte sequence from index {index}"
  | ⟨index, some length⟩ => s!"invalid utf-8 sequence of {length} bytes from index {index}"

/-- The flaw of some bytes that stand behind others; bytes without one end it at their end. -/
def flaw (index : Nat) : List UInt8 → Flaw
  | [] => { index, length := none }
  | first :: rest =>
    match readChar first rest with
    | (some _, used) => flaw (index + 1 + used) (rest.drop used)
    | (none, used) =>
      -- Only a byte that can begin a character leaves one unfinished.
      let unfinished := rest.length == used && 0xC2 ≤ first && first ≤ 0xF4
      { index, length := if unfinished then none else some (used + 1) }
  termination_by bytes => bytes.length
  decreasing_by simp only [List.length_drop, List.length_cons]; omega

/-- The text of some bytes, if they are all well formed. -/
def decode? (bytes : List UInt8) : Option String :=
  ((decode bytes).mapM id).map String.ofList

end DungeonHooks.Text
