/-!
# The fewest decimal digits that read back

A finite double stands for the interval of real numbers that round to it. The decimal that is
written for it is the one with the fewest digits among the decimals in that interval, and of
those the nearest to the double; if two are equally near, the one with the even last digit.

Everything is exact arithmetic on naturals. For a power of ten `10 ^ k` the only multiples that
can be nearest are the two around the value, so the search looks at those two, for smaller and
smaller `k`; the first `k` at which one of them lies in the interval gives the digits.

## Main definitions

* `Binary` — a positive finite double as a significand and a power of two.
* `Binary.admits` — the interval test.
* `Digits` — a decimal significand and a power of ten.
* `Binary.shortest` — the decimal that is written.
-/

namespace DtoInterfaces

namespace Decimal

/-- A finite double without its sign: `significand * 2 ^ exponent`. -/
structure Binary where
  significand : Nat
  exponent : Int
  /-- The double below is only half as far away as the one above. -/
  closeBelow : Bool
deriving DecidableEq

/-- A decimal: `significand * 10 ^ exponent`. -/
structure Digits where
  significand : Nat
  exponent : Int
deriving DecidableEq, Inhabited

/-- A power of two. -/
def twoTo (k : Nat) : Nat := Nat.pow 2 k

/-- A power of ten. -/
def tenTo (k : Nat) : Nat := Nat.pow 10 k

/-- The magnitude encoded by the low 63 bits of a double that is neither infinite nor a NaN. -/
def Binary.ofBits (bits : Nat) : Binary :=
  let field : Nat := bits / twoTo 52 % twoTo 11
  let fraction : Nat := bits % twoTo 52
  if field = 0 then ⟨fraction, -1074, false⟩
  else ⟨twoTo 52 + fraction, (field : Int) - 1075, fraction == 0 && 1 < field⟩

/-- The common denominator under which multiples of `10 ^ k` and quarters of the unit in the
last place of a double can be compared: a multiple `c` stands at `c * scale.1`, and `n` quarters
stand at `n * scale.2`. -/
def Binary.scale (x : Binary) (k : Int) : Nat × Nat :=
  let j := x.exponent - 2
  (tenTo k.toNat * twoTo (-j).toNat, twoTo j.toNat * tenTo (-k).toNat)

/-- Whether `c * 10 ^ k` is among the reals that round to the double. The ends of the interval
lie half a unit away, a quarter below a power of two; they belong to it if the significand is
even. -/
def Binary.admits (x : Binary) (k : Int) (c : Nat) : Bool :=
  let (multiple, quarter) := x.scale k
  let low := (4 * x.significand - if x.closeBelow then 1 else 2) * quarter
  let high := (4 * x.significand + 2) * quarter
  let here := c * multiple
  if x.significand % 2 = 0 then low ≤ here && here ≤ high else low < here && here < high

/-- Of two neighbouring multiples, the one nearer to the value; the even one if the value lies in
the middle. -/
def Binary.nearer (x : Binary) (k : Int) (below : Nat) : Nat :=
  let (multiple, quarter) := x.scale k
  match compare (2 * (4 * x.significand * quarter)) ((2 * below + 1) * multiple) with
  | .lt => below
  | .gt => below + 1
  | .eq => if below % 2 = 0 then below else below + 1

/-- The multiple of `10 ^ k` that is written, if one of the two around the value reads back. -/
def Binary.onGrid? (x : Binary) (k : Int) : Option Nat :=
  let (multiple, quarter) := x.scale k
  let below := 4 * x.significand * quarter / multiple
  match x.admits k below, x.admits k (below + 1) with
  | true, true => some (x.nearer k below)
  | true, false => some below
  | false, true => some (below + 1)
  | false, false => none

/-- Search the grids `10 ^ k`, `10 ^ (k - 1)`, …; the exact value, should none of them fit. -/
def Binary.search (x : Binary) : (grids : Nat) → (k : Int) → Digits
  | 0, k =>
    ⟨x.significand * twoTo x.exponent.toNat * tenTo (-k).toNat / twoTo (-x.exponent).toNat, k⟩
  | grids + 1, k =>
    match x.onGrid? k with
    | some c => ⟨c, k⟩
    | none => x.search grids (k - 1)

/-- The fewest digits that read back as the double. The search starts above the value, and the
finest grid it looks at is the one of the smallest positive double. -/
def Binary.shortest (x : Binary) : Digits := x.search 660 310

/-- The decimal digits of a natural number. -/
def digitsOf (n : Nat) : List Char := Nat.toDigits 10 n

end Decimal

end DtoInterfaces
