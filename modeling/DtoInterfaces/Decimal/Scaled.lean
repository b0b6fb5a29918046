/-!
# The double of a scaled significand

A document number with a point or an exponent is read as a whole significand of at most 64 bits
and a power of ten. Its double is the significand's double, multiplied or divided by the double
of the power of ten, each step rounded on its own. Below the least power of ten that is
divided by, the division is split; above the greatest one that is multiplied by, the number is
too large, as it is when the product overflows.

For significands of at most fifteen digits and powers of ten up to twenty-two the two doubles are
exact, so that the result is the double nearest to the decimal; in general it may be a neighbour
of it.

## Main definitions

* `scaled?` — the double of `significand * 10 ^ exponent`, if it is not too large.
* `absorb` — how many digits of a number fit into the significand.
-/

namespace DtoInterfaces

namespace Decimal

/-- The greatest power of ten in one multiplication or division. -/
def greatestPower : Nat := 308

/-- The double nearest to a power of ten. -/
def powerOfTen (k : Nat) : Float := Float.ofScientific 1 false k

/-- Divide by `10 ^ k`, in steps of the greatest power of ten. -/
def divideByPower (x : Float) (k : Nat) : Float :=
  if k ≤ greatestPower then x / powerOfTen k
  else if x == 0 then x
  else divideByPower (x / powerOfTen greatestPower) (k - greatestPower)
termination_by k
decreasing_by
  simp only [greatestPower]
  simp only [greatestPower] at *
  omega

/-- The double of `significand * 10 ^ exponent`; `none` if the number is too large for one. The
significand is below `2 ^ 64`. -/
def scaled? (significand : Nat) (exponent : Int) : Option Float :=
  let x := significand.toUInt64.toFloat
  if exponent < 0 then some (divideByPower x exponent.natAbs)
  else if exponent.natAbs ≤ greatestPower then
    let y := x * powerOfTen exponent.natAbs
    if y.isInf then none else some y
  else if significand = 0 then some x
  else none

/-- The greatest significand. -/
def greatestSignificand : Nat := Nat.pow 2 64 - 1

/-- Append digits to a significand as long as it stays within its 64 bits; the digits from the
first one that does not fit on are left over. -/
def absorb (significand : Nat) : List Nat → Nat × List Nat
  | [] => (significand, [])
  | d :: ds =>
    if significand * 10 + d ≤ greatestSignificand then absorb (significand * 10 + d) ds
    else (significand, d :: ds)

end Decimal

end DtoInterfaces
