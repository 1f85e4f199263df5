import DungeonHooks.Decimal.Read
import DungeonHooks.Decimal.Rounded

/-! The numbers of scripts: floats, with whole numbers kept exact as far as floats are. -/

namespace DungeonHooks.Script

/-- A number. A whole number stands for itself as far as every float does; a negative zero is `real`. -/
inductive Number where
  | whole (value : Int)
  | real (value : Float)
  /-- What is no number, as the result of an operation without one; it keeps a sign. -/
  | nan (negative : Bool)
  deriving Inhabited

namespace Number

/-- The largest size up to which all whole numbers are floats. -/
def exactLimit : Nat := 1 <<< 53

/-- A float that is some number, in its one form. -/
def ofFloat (x : Float) : Number :=
  let n := x.toInt64.toInt
  if n.natAbs ≤ exactLimit && Float.ofInt n == x && !(n == 0 && Decimal.isNegative x) then .whole n
  else .real x

/-- The number nearest to a whole one. -/
def ofInt (n : Int) : Number :=
  if n.natAbs ≤ exactLimit then .whole n else .real (Float.ofInt n)

/-- A number as it was read. -/
def ofReading : Decimal.Reading → Number
  | .real x => ofFloat x
  | .nan negative => .nan negative

/-- The number that some letters are, if they are one. -/
def read? (cs : List Char) : Option Number :=
  (Decimal.readNumber cs).map ofReading

/-- The float of a number. -/
def toFloat : Number → Float
  | .whole n => Float.ofInt n
  | .real x => x
  | .nan _ => 0 / 0

/-- The negative zero. -/
def negativeZero : Number := .real (-0.0)

/-- The outcome of an operation on floats. What is no number is passed on, and otherwise arises negative. -/
def outcome (a b : Number) (x : Float) : Number :=
  if x.isNaN then
    match a, b with
    | .nan sign, _ => .nan sign
    | _, .nan sign => .nan sign
    | _, _ => .nan true
  else ofFloat x

/-- The sum. -/
def add : Number → Number → Number
  | .whole a, .whole b => ofInt (a + b)
  | a, b => outcome a b (a.toFloat + b.toFloat)

/-- The difference. -/
def sub : Number → Number → Number
  | .whole a, .whole b => ofInt (a - b)
  | a, b => outcome a b (a.toFloat - b.toFloat)

/-- The product; a zero has the sign of its factors. -/
def mul : Number → Number → Number
  | .whole a, .whole b =>
    if a * b == 0 && (a < 0 || b < 0) then negativeZero else ofInt (a * b)
  | a, b => outcome a b (a.toFloat * b.toFloat)

/-- The quotient. -/
def div (a b : Number) : Number :=
  outcome a b (a.toFloat / b.toFloat)

/-- The remainder, which has the sign of the divisor. -/
def mod (a b : Number) : Number :=
  let (x, y) := (a.toFloat, b.toFloat)
  outcome a b (x - (x / y).floor * y)

/-- The power. -/
def pow (a b : Number) : Number :=
  outcome a b (a.toFloat.pow b.toFloat)

/-- The number with its sign turned. -/
def neg : Number → Number
  | .whole n => if n == 0 then negativeZero else .whole (-n)
  | .real x => ofFloat (-x)
  | .nan sign => .nan !sign

/-- The largest whole number that is not above. -/
def floor : Number → Number
  | .real x => ofFloat x.floor
  | n => n

/-- Whether two numbers are equal; what is no number equals nothing, and the zeros equal each other. -/
def eq : Number → Number → Bool
  | .whole a, .whole b => a == b
  | a, b => a.toFloat == b.toFloat

/-- Whether the first number is the smaller one. -/
def lt : Number → Number → Bool
  | .whole a, .whole b => a < b
  | a, b => a.toFloat < b.toFloat

/-- Whether the first number is smaller than the other, or equal to it. -/
def le : Number → Number → Bool
  | .whole a, .whole b => a ≤ b
  | a, b => a.toFloat ≤ b.toFloat

/-- The digits that the text of a number has at most. -/
def textDigits : Nat := 14

/-- The text of a number. -/
def text : Number → String
  | .whole n =>
    if n.natAbs < Nat.pow 10 textDigits then toString n
    else Decimal.roundedText textDigits (Float.ofInt n)
  | .real x => Decimal.roundedText textDigits x
  | .nan sign => if sign then "-nan" else "nan"

/-- The whole number that a finite number is cut to, toward zero. -/
def truncated? : Number → Option Int
  | .whole n => some n
  | .nan _ => none
  | .real x =>
    if x.isInf then none
    else
      let { num, den } := (Decimal.Binary.ofFloat x).scaled 0
      let size : Int := (num / den : Nat)
      some (if Decimal.isNegative x then -size else size)

/-- Whether a number counts as an integer of 64 bits: it has to be closer to one than the last bit of one. -/
def isInteger : Number → Bool
  | .whole _ => true
  | .nan _ => false
  | .real x =>
    let n := x.toInt64.toInt
    x < Float.scaleB 1 63 && (x - Float.ofInt n).abs < Float.scaleB 1 (-52)

end Number

end DungeonHooks.Script
