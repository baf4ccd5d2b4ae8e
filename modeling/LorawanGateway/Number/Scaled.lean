/-!
Reading a decimal as a binary number in two steps: its leading digits as a 64-bit integer, rounded
once, then one multiplication or division by a power of ten.
-/

namespace LorawanGateway

/-- The nearest binary number to `10 ^ power`. -/
def tenPower (power : Nat) : Float := Float.ofScientific 1 false power

/-- The largest power of ten that a binary number reaches. -/
def largestTenPower : Nat := 308

/-- `x * 10 ^ exponent`, scaled down in steps of the largest power of ten; `none` beyond the
largest number. -/
def scaleByTen? (x : Float) (exponent : Int) : Option Float :=
  if exponent.natAbs ≤ largestTenPower then
    if 0 ≤ exponent then
      let scaled := x * tenPower exponent.natAbs
      if scaled.isInf then none else some scaled
    else some (x / tenPower exponent.natAbs)
  else if x == 0.0 then some x
  else if 0 ≤ exponent then none
  else scaleByTen? (x / tenPower largestTenPower) (exponent + largestTenPower)
termination_by exponent.natAbs
decreasing_by
  simp only [largestTenPower] at *
  omega

end LorawanGateway
