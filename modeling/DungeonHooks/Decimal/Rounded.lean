import DungeonHooks.Decimal.Shortest

/-! Floats rounded to a fixed number of significant digits, without zeros at the end. -/

namespace DungeonHooks.Decimal

/-- A positive size rounded to a number of digits: the digits, and how many of them stand before the point. -/
def Binary.toDigits (b : Binary) (count : Nat) : List Char × Int :=
  let place := b.magnitude
  let rounded := (b.scaled (place - count)).rounded
  -- Rounding up may add a digit, which moves the point.
  let carry : Int := if digitCount rounded = count then 0 else 1
  (significant rounded, place + carry)

/-- The two digits or more of an exponent. -/
def exponentText (e : Nat) : String :=
  if e < 10 then s!"0{e}" else s!"{e}"

/-- The text with at most `count` significant digits; very small and very large sizes get an exponent. -/
def roundedText (count : Nat) (x : Float) : String :=
  let sign := if isNegative x then "-" else ""
  if x.isNaN then sign ++ "nan"
  else if x.isInf then sign ++ "inf"
  else
    let size := Binary.ofFloat x
    if size.mantissa == 0 then sign ++ "0"
    else
      let (digits, point) := size.toDigits count
      let length : Int := digits.length
      if point < -3 || (count : Int) < point then
        let fraction := if digits.length ≤ 1 then "" else "." ++ String.ofList (digits.drop 1)
        let mark := if point < 1 then "e-" else "e+"
        sign ++ String.ofList (digits.take 1) ++ fraction ++ mark
          ++ exponentText (point - 1).natAbs
      else if point ≤ 0 then
        sign ++ "0." ++ String.ofList (List.replicate (-point).toNat '0' ++ digits)
      else if length ≤ point then
        sign ++ String.ofList (digits ++ List.replicate (point - length).toNat '0')
      else
        sign ++ String.ofList (digits.take point.toNat) ++ "."
          ++ String.ofList (digits.drop point.toNat)

end DungeonHooks.Decimal
