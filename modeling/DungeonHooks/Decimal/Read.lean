import DungeonHooks.Decimal.Binary
import DungeonHooks.Text.Letters

/-! Floats from their text: decimal and hexadecimal, and words for infinity and for no number. -/

namespace DungeonHooks.Decimal

open Text

/-- What a text is read as: a float, or no number, which keeps its sign. -/
inductive Reading where
  | real (value : Float)
  | nan (negative : Bool)

/-- A sign at the start, and the rest. -/
def takeSign : List Char → Bool × List Char
  | '-' :: rest => (true, rest)
  | '+' :: rest => (false, rest)
  | cs => (false, cs)

/-- The digits of a number with a point, as one whole number, and how many of them follow the point. -/
structure Pointed where
  digits : Nat
  decimals : Nat
  deriving DecidableEq, Inhabited

/-- Digits with at most one point among them; there is at least one digit. -/
def takePointed (base : Nat) (value : Char → Option Nat) (cs : List Char) :
    Option (Pointed × List Char) :=
  let digit := fun c => (value c).isSome
  let whole := (cs.takeWhile digit).filterMap value
  let rest := cs.dropWhile digit
  let (fraction, rest) : List Nat × List Char := match rest with
    | '.' :: after => ((after.takeWhile digit).filterMap value, after.dropWhile digit)
    | rest => ([], rest)
  if whole.isEmpty && fraction.isEmpty then none
  else some ({ digits := ofDigits base (whole ++ fraction), decimals := fraction.length }, rest)

/-- The value of a decimal digit. -/
def decimalValue (c : Char) : Option Nat :=
  if c.isDigit then some (c.toNat - '0'.toNat) else none

/-- An exponent behind its mark; without digits it is not part of the number. -/
def takeExponent (mark : Char) (cs : List Char) : Int × List Char :=
  match cs with
  | c :: rest =>
    if lower c == mark then
      let (negative, rest) := takeSign rest
      let digits := (rest.takeWhile Char.isDigit).filterMap decimalValue
      if digits.isEmpty then (0, cs)
      else
        let size : Int := ofDigits 10 digits
        (if negative then -size else size, rest.dropWhile Char.isDigit)
    else (0, cs)
  | [] => (0, [])

/-- The float nearest to `n * 10 ^ e`. -/
def nearestTen (n : Nat) (e : Int) : Float :=
  let top := e + digitCount n
  if n == 0 || top < -400 then 0
  else if 400 < top then 1 / 0
  else Float.ofScientific n (e < 0) e.natAbs

/-- The float nearest to `n * 2 ^ e`; of a long number only whether the far bits are all zero is kept. -/
def nearestTwo (n : Nat) (e : Int) : Float :=
  let far := n.log2 - 60
  let near := n >>> far
  let near := if near <<< far == n then near else near ||| 1
  (Float.ofNat near).scaleB (e + far)

/-- A number without its sign, at the start of some letters. -/
def takeSize (cs : List Char) : Option (Float × List Char) :=
  let hexadecimal : Option (Pointed × List Char) := match cs with
    | '0' :: x :: rest => if lower x == 'x' then takePointed 16 hexValue rest else none
    | _ => none
  match hexadecimal with
  | some (number, rest) =>
    let (exponent, rest) := takeExponent 'p' rest
    some (nearestTwo number.digits (exponent - 4 * number.decimals), rest)
  | none =>
    (takePointed 10 decimalValue cs).map fun (number, rest) =>
      let (exponent, rest) := takeExponent 'e' rest
      (nearestTen number.digits (exponent - number.decimals), rest)

/-- What may stand in brackets behind the word for no number. -/
def skipBrackets (cs : List Char) : List Char :=
  match cs with
  | '(' :: rest =>
    match rest.dropWhile isWord with
    | ')' :: rest => rest
    | _ => cs
  | _ => cs

/-- Reads the number at the start of some letters, blanks before it left out. -/
def takeReading (cs : List Char) : Option (Reading × List Char) :=
  let (negative, cs) := takeSign (cs.dropWhile isSpace)
  let signed (size : Float) : Reading := .real (if negative then -size else size)
  match takeSize cs with
  | some (size, rest) => some (signed size, rest)
  | none =>
    match afterWord? "infinity".toList cs, afterWord? "inf".toList cs, afterWord? "nan".toList cs with
    | some rest, _, _ => some (signed (1 / 0), rest)
    | none, some rest, _ => some (signed (1 / 0), rest)
    | none, none, some rest => some (.nan negative, skipBrackets rest)
    | none, none, none => none

/-- Reads letters that are a number from their start to their end, or to the first zero byte; blanks may stand on both sides. -/
def readNumber (cs : List Char) : Option Reading :=
  match takeReading (cs.takeWhile (· != '\x00')) with
  | some (reading, rest) => if rest.all isSpace then some reading else none
  | none => none

end DungeonHooks.Decimal
