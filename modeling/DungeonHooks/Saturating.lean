/-! Fixed-width sums and differences that stop at the ends of their range. -/

namespace DungeonHooks

/-- The difference of two words, or the nearest end of the range when it does not fit. -/
def saturatingSub (a b : Int32) : Int32 :=
  Int32.ofIntClamp (a.toInt - b.toInt)

/-- The sum of two words, or the nearest end of the range when it does not fit. -/
def saturatingAdd (a b : Int32) : Int32 :=
  Int32.ofIntClamp (a.toInt + b.toInt)

/-- The sum of two bytes, held at 255. -/
def saturatingAddByte (a b : UInt8) : UInt8 :=
  UInt8.ofNat (min 255 (a.toNat + b.toNat))

end DungeonHooks
