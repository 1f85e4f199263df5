import DungeonHooks.Json.Fault
import DungeonHooks.Text.Letters

/-! Strings of a document: where one ends, and what its escapes stand for. -/

namespace DungeonHooks.Json

/-- The number that some hexadecimal digits make. -/
def hexNumber (cs : List Char) : Option Nat :=
  cs.foldl (fun value c => do return (← value) * 16 + (← Text.hexValue c)) (some 0)

/-- Why four hexadecimal digits could not be read: fewer than four bytes are left, or they are no digits. -/
def hexFault (cs : List Char) : Fault :=
  if (cs.take 4).foldl (fun size c => size + c.utf8Size) 0 < 4 then .endInString else .invalidEscape

/-- What a letter after a backslash stands for; `u` is dealt with apart. -/
def escapedChar : Char → Option Char
  | '"' => some '"'
  | '\\' => some '\\'
  | '/' => some '/'
  | 'b' => some '\x08'
  | 'f' => some '\x0c'
  | 'n' => some '\n'
  | 'r' => some '\r'
  | 't' => some '\t'
  | _ => none

/-- Finds the end of a string whose opening quote is gone: the characters up to the quote, and the rest behind it. On failure, the characters that were looked at. -/
def closeText : List Char → Except (Fault × List Char) (List Char × List Char)
  | [] => .error (.endInString, [])
  | '"' :: rest => .ok ([], rest)
  | '\\' :: 'u' :: a :: b :: c :: d :: rest =>
    let escape := ['\\', 'u', a, b, c, d]
    if (hexNumber [a, b, c, d]).isSome then
      match closeText rest with
      | .ok (inside, rest) => .ok (escape ++ inside, rest)
      | .error (fault, seen) => .error (fault, escape ++ seen)
    else .error (hexFault [a, b, c, d], escape)
  | '\\' :: 'u' :: rest => .error (hexFault rest, '\\' :: 'u' :: rest)
  | ['\\'] => .error (.endInString, ['\\'])
  | '\\' :: e :: rest =>
    if (escapedChar e).isSome then
      match closeText rest with
      | .ok (inside, rest) => .ok ('\\' :: e :: inside, rest)
      | .error (fault, seen) => .error (fault, '\\' :: e :: seen)
    else .error (.invalidEscape, ['\\', e])
  | c :: rest =>
    if c < ' ' then .error (.controlCharacter, [c])
    else match closeText rest with
      | .ok (inside, rest) => .ok (c :: inside, rest)
      | .error (fault, seen) => .error (fault, c :: seen)

/-- Whether a code is the first half of a surrogate pair. -/
def isLeading (code : Nat) : Bool :=
  0xD800 ≤ code && code ≤ 0xDBFF

/-- Whether a code is the second half of a surrogate pair. -/
def isTrailing (code : Nat) : Bool :=
  0xDC00 ≤ code && code ≤ 0xDFFF

/-- The code that a surrogate pair stands for. -/
def joinPair (leading trailing : Nat) : Nat :=
  (leading - 0xD800) * 0x400 + (trailing - 0xDC00) + 0x10000

/-- What is wrong behind the first half of a surrogate pair that is not followed by a whole escape. -/
def pairFault : List Char → Fault
  | [] => .endInString
  | ['\\'] => .endInString
  | '\\' :: 'u' :: rest => hexFault rest
  | _ => .endOfHexEscape

/-- The characters of a string whose opening quote is gone, with its escapes resolved. -/
def decodeText : List Char → Except Fault (List Char)
  | [] => .error .endInString
  | '"' :: _ => .ok []
  | '\\' :: 'u' :: a :: b :: c :: d :: rest =>
    match hexNumber [a, b, c, d] with
    | none => .error (hexFault [a, b, c, d])
    | some code =>
      if isTrailing code then .error .loneSurrogate
      else if isLeading code then
        match rest with
        | '\\' :: 'u' :: e :: f :: g :: h :: rest =>
          match hexNumber [e, f, g, h] with
          | none => .error (hexFault [e, f, g, h])
          | some second =>
            if isTrailing second then do
              return Char.ofNat (joinPair code second) :: (← decodeText rest)
            else .error .loneSurrogate
        | rest => .error (pairFault rest)
      else do
        return Char.ofNat code :: (← decodeText rest)
  | '\\' :: 'u' :: rest => .error (hexFault rest)
  | ['\\'] => .error .endInString
  | '\\' :: e :: rest =>
    match escapedChar e with
    | some c => do return c :: (← decodeText rest)
    | none => .error .invalidEscape
  | c :: rest => if c < ' ' then .error .controlCharacter else do return c :: (← decodeText rest)

end DungeonHooks.Json
