import DungeonHooks.Decimal.Binary

/-! The fewest decimal digits that read back as the same float, and the text made of them. -/

namespace DungeonHooks.Decimal

/-- A decimal number `digits * 10 ^ exponent`. -/
structure Digits where
  digits : Nat
  exponent : Int
  deriving DecidableEq, Inhabited

/-- Whether `n * 10 ^ k` reads back as the float of this size; ends of the interval count for even mantissas. -/
def Binary.reads (b : Binary) (n : Nat) (k : Int) : Bool :=
  -- All sides are scaled by four, so that half and quarter units are whole.
  let unit := ({ b with mantissa := 1 } : Binary).scaled k
  let low := if b.mantissa == fractionLimit && -1074 < b.exponent then 4 * b.mantissa - 1
    else 4 * b.mantissa - 2
  let high := 4 * b.mantissa + 2
  let value := 4 * n * unit.den
  if b.mantissa % 2 == 0 then low * unit.num ≤ value && value ≤ high * unit.num
  else low * unit.num < value && value < high * unit.num

/-- The decimal with a number of digits that reads back, if one of the two neighbours does; the nearer one if both do. -/
def Binary.attempt (b : Binary) (count : Nat) : Option Digits :=
  let k := b.magnitude - count
  let ratio := b.scaled k
  let floor := ratio.num / ratio.den
  let below := b.reads floor k
  let above := b.reads (floor + 1) k
  if below && above then some { digits := ratio.rounded, exponent := k }
  else if below then some { digits := floor, exponent := k }
  else if above then some { digits := floor + 1, exponent := k }
  else none

/-- The first attempt that succeeds, from a number of digits on. -/
def Binary.search (b : Binary) : Nat → Nat → Digits
  | 0, _ => { digits := b.mantissa, exponent := b.exponent }
  | tries + 1, count => (b.attempt count).getD (b.search tries (count + 1))

/-- The shortest decimal of a positive size; 17 digits always suffice. -/
def Binary.shortest (b : Binary) : Digits :=
  b.search 17 1

/-- Zeros at the end of the digits of a number are dropped. -/
def significant (n : Nat) : List Char :=
  ((Nat.toDigits 10 n).reverse.dropWhile (· == '0')).reverse

/-- The text of digits with the point after the first `point` of them: positional up to 16 places, with an exponent beyond. -/
def layout (digits : List Char) (point : Int) : String :=
  let count : Int := digits.length
  if 0 < point && point ≤ 16 then
    if count ≤ point then
      String.ofList (digits ++ List.replicate (point - count).toNat '0') ++ ".0"
    else
      String.ofList (digits.take point.toNat) ++ "." ++ String.ofList (digits.drop point.toNat)
  else if -5 < point && point ≤ 0 then
    "0." ++ String.ofList (List.replicate (-point).toNat '0' ++ digits)
  else
    let fraction := if digits.length ≤ 1 then "" else "." ++ String.ofList (digits.drop 1)
    String.ofList (digits.take 1) ++ fraction ++ s!"e{point - 1}"

/-- The shortest text of a finite float; a whole number keeps one zero after the point. -/
def shortestText (x : Float) : String :=
  let sign := if isNegative x then "-" else ""
  let size := Binary.ofFloat x
  if size.mantissa == 0 then sign ++ "0.0"
  else
    let { digits, exponent } := size.shortest
    sign ++ layout (significant digits) (digitCount digits + exponent)

end DungeonHooks.Decimal
