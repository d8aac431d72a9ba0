import AlertPolicy.Number.Binary64

/-!
The binary64 number nearest to a fraction. All steps are exact integer arithmetic; a value halfway
between two neighbours goes to the one with an even last bit, and a value beyond the greatest
finite number by half a step or more becomes infinite.
-/

namespace AlertPolicy.Number

/-- The nearest integer to `num / den`, the even one of two that are equally near. -/
def roundHalfEven (num den : Nat) : Nat :=
  let q := num / den
  let twice := 2 * (num % den)
  if twice < den then q
  else if den < twice then q + 1
  else if q % 2 = 0 then q else q + 1

/-- The greatest `e` with `2 ^ e ≤ num / den`, both being positive. -/
def floorLog2 (num den : Nat) : Int :=
  let e : Int := (num.log2 : Int) - den.log2
  let below := if 0 ≤ e then num < den <<< e.toNat else num <<< (-e).toNat < den
  if below then e - 1 else e

/-- The magnitude bits of the number nearest to `num / den`. The unit of the last place is
`2 ^ unit`, never finer than that of the subnormal numbers; a mantissa rounded up to the next
power of two carries into the exponent by the addition. -/
def nearestMagnitude (num den : Nat) : Nat :=
  if num = 0 then 0
  else
    let unit := max (floorLog2 num den - 52) (-1074)
    let mantissa :=
      if 0 ≤ unit then roundHalfEven num (den <<< unit.toNat)
      else roundHalfEven (num <<< (-unit).toNat) den
    min Binary64.infinityMagnitude ((unit + 1074).toNat <<< 52 + mantissa)

end AlertPolicy.Number
