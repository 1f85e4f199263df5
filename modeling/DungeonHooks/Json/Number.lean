import DungeonHooks.Decimal.Shortest
import DungeonHooks.Json.Fault

/-! Numbers of a document: integers of 64 bits, and floats for all others. -/

namespace DungeonHooks.Json

/-- A number as it is written. -/
structure Numeral where
  negative : Bool
  whole : List Nat
  fraction : Option (List Nat) := none
  /-- The exponent's digits and whether it is negative. -/
  exponent : Option (Bool × List Nat) := none
  deriving DecidableEq, Inhabited

/-- A number that was read. -/
inductive Number where
  | integer (value : Int)
  | real (value : Float)

/-- The value of a decimal digit. -/
def digitValue (c : Char) : Nat :=
  c.toNat - '0'.toNat

/-- The digits at the start of a text, and the rest. -/
def takeDigits (cs : List Char) : List Nat × List Char :=
  ((cs.takeWhile Char.isDigit).map digitValue, cs.dropWhile Char.isDigit)

/-- The digits at the start of a text that has to have some. -/
def someDigits (cs : List Char) : Except Break (List Nat × List Char) :=
  match cs with
  | [] => .error { read := .endInValue, skipped := .invalidNumber }
  | c :: _ => if c.isDigit then .ok (takeDigits cs) else .error { read := .invalidNumber }

/-- The digits before the point; a zero stands alone. -/
def wholeDigits (cs : List Char) : Except Break (List Nat × List Char) := do
  let (digits, rest) ← someDigits cs
  if digits.head? == some 0 && 1 < digits.length then .error { read := .invalidNumber }
  else .ok (digits, rest)

/-- The digits after a point, if there is one. -/
def fractionDigits : List Char → Except Break (Option (List Nat) × List Char)
  | '.' :: rest => do
    let (digits, rest) ← someDigits rest
    .ok (some digits, rest)
  | cs => .ok (none, cs)

/-- The sign of an exponent, and what follows it. -/
def exponentSign : List Char → Bool × List Char
  | '-' :: rest => (true, rest)
  | '+' :: rest => (false, rest)
  | cs => (false, cs)

/-- The exponent, if there is one. -/
def exponentDigits (cs : List Char) : Except Break (Option (Bool × List Nat) × List Char) :=
  match cs with
  | c :: rest =>
    if c == 'e' || c == 'E' then do
      let (negative, rest) := exponentSign rest
      let (digits, rest) ← someDigits rest
      .ok (some (negative, digits), rest)
    else .ok (none, cs)
  | [] => .ok (none, [])

/-- Reads the numeral at the start of a text. -/
def Numeral.scan (cs : List Char) : Except Break (Numeral × List Char) := do
  let (negative, cs) := match cs with
    | '-' :: rest => (true, rest)
    | cs => (false, cs)
  let (whole, cs) ← wholeDigits cs
  let (fraction, cs) ← fractionDigits cs
  let (exponent, cs) ← exponentDigits cs
  .ok ({ negative, whole, fraction, exponent }, cs)

/-- Appends digits to a number while it fits into 64 bits; and how many were appended. -/
def absorb (value : Nat) : List Nat → Nat × Nat
  | [] => (value, 0)
  | digit :: rest =>
    let next := value * 10 + digit
    if next < UInt64.size then
      let (value, count) := absorb next rest
      (value, count + 1)
    else (value, 0)

/-- A float divided by a power of ten, in steps that are themselves floats. -/
def divideTen (x : Float) (power : Nat) : Float :=
  if power ≤ 308 then x / Float.ofScientific 1 false power
  else if x == 0 then x
  else divideTen (x / Float.ofScientific 1 false 308) (power - 308)
  termination_by power
  decreasing_by omega

/-- A float multiplied by a power of ten, if the result is finite. -/
def timesTen (x : Float) (power : Nat) : Except Fault Float :=
  if power ≤ 308 then
    let product := x * Float.ofScientific 1 false power
    if product.isInf then .error .numberOutOfRange else .ok product
  else if x == 0 then .ok x
  else .error .numberOutOfRange

namespace Numeral

/-- The significant digits that fit into 64 bits, and the power of ten that they are multiplied by. -/
def parts (numeral : Numeral) : Nat × Int :=
  let (value, kept) := absorb 0 numeral.whole
  let (value, decimals) := absorb value (numeral.fraction.getD [])
  let exponent : Int := match numeral.exponent with
    | some (true, digits) => -(Decimal.ofDigits 10 digits : Int)
    | some (false, digits) => Decimal.ofDigits 10 digits
    | none => 0
  (value, exponent + (numeral.whole.length - kept : Nat) - decimals)

/-- The float nearest to the significant digits, moved by the exponent. -/
def toFloat (numeral : Numeral) : Except Fault Float := do
  let (value, exponent) := numeral.parts
  let size ←
    if exponent < 0 then .ok (divideTen (Float.ofNat value) exponent.natAbs)
    else timesTen (Float.ofNat value) exponent.natAbs
  .ok (if numeral.negative then -size else size)

/-- The integer, if it is written as one and has 64 bits; a negative zero is none. -/
def toInteger? (numeral : Numeral) : Option Int :=
  if numeral.fraction.isSome || numeral.exponent.isSome then none
  else
    let value := Decimal.ofDigits 10 numeral.whole
    if numeral.negative then
      if value == 0 || -(value : Int) < Int64.minValue.toInt then none else some (-(value : Int))
    else if value < UInt64.size then some value else none

/-- The number that is written. -/
def value (numeral : Numeral) : Except Fault Number :=
  match numeral.toInteger? with
  | some value => .ok (.integer value)
  | none => numeral.toFloat.map .real

end Numeral

/-- What a number is found to be. -/
def Number.found : Number → Found
  | .integer value => .integer value
  | .real value => .real (Decimal.shortestText value)

end DungeonHooks.Json
