/-! Finite floating-point numbers as exact fractions, and their place among the powers of ten. -/

namespace DungeonHooks.Decimal

/-- The size of a finite float: `mantissa * 2 ^ exponent`. -/
structure Binary where
  mantissa : Nat
  exponent : Int
  deriving DecidableEq, Inhabited

/-- The number of fractions that 52 bits write. -/
def fractionLimit : Nat := 1 <<< 52

/-- The size of a float that is finite; the sign is left out. -/
def Binary.ofFloat (x : Float) : Binary :=
  let bits : Nat := x.toBits.toNat
  let field : Nat := bits / fractionLimit % (1 <<< 11)
  let fraction : Nat := bits % fractionLimit
  if field = 0 then { mantissa := fraction, exponent := -1074 }
  else { mantissa := fraction + fractionLimit, exponent := (field : Int) - 1075 }

/-- Whether the sign bit of a float is set. -/
def isNegative (x : Float) : Bool :=
  x.toBits.toNat >>> 63 == 1

/-- A fraction of natural numbers; the denominator is positive. -/
structure Ratio where
  num : Nat
  den : Nat
  deriving DecidableEq, Inhabited

/-- The fraction `mantissa * 2 ^ exponent / 10 ^ k`. -/
def Binary.scaled (b : Binary) (k : Int) : Ratio :=
  { num := (b.mantissa <<< b.exponent.toNat) * Nat.pow 10 (-k).toNat
    den := (1 <<< (-b.exponent).toNat) * Nat.pow 10 k.toNat }

/-- The number that digits of a base make. -/
def ofDigits (base : Nat) (digits : List Nat) : Nat :=
  digits.foldl (fun value digit => value * base + digit) 0

/-- The number of decimal digits of a positive number. -/
def digitCount (n : Nat) : Nat :=
  (Nat.toDigits 10 n).length

/-- The number of digits before the decimal point of a positive size, negative if zeros follow the point. -/
def Binary.magnitude (b : Binary) : Int :=
  let { num, den } := b.scaled 0
  if den ≤ num then digitCount (num / den)
  else 1 - (digitCount ((den + num - 1) / num - 1) : Int)

/-- The nearest whole number; of two equally near ones the even one. -/
def Ratio.rounded (r : Ratio) : Nat :=
  let quotient := r.num / r.den
  let twice := 2 * (r.num % r.den)
  if twice < r.den || (twice == r.den && quotient % 2 == 0) then quotient else quotient + 1

end DungeonHooks.Decimal
