import DtoInterfaces.Decimal.Shortest

/-!
# How a double is laid out

The digits of a double are settled by `Decimal.Binary.shortest`; where the point goes and when
an exponent is written is a decision of the document format. It is stated here as one value.

## Main definitions

* `Layout` — the decisions of a number format.
* `Layout.document` — the ones of the documents this library writes.
* `Layout.write` — the text of a double in a layout.
-/

namespace DtoInterfaces

namespace Decimal

/-- The decisions of a number format. -/
structure Layout where
  /-- The least power of ten of a leading digit that is written without an exponent. -/
  leastPositional : Int
  /-- The greatest power of ten of a leading digit that is written without an exponent. -/
  greatestPositional : Int
  /-- What stands before a positive exponent. -/
  positiveExponent : List Char
  /-- What stands before a negative exponent. -/
  negativeExponent : List Char
  /-- What follows a whole number that is written without an exponent. -/
  afterWhole : List Char
deriving DecidableEq

/-- A double has at most sixteen digits before the point and at most four zeros after it; a whole
number ends in `.0`; beyond that the power of ten is written with its sign. -/
def Layout.document : Layout where
  leastPositional := -5
  greatestPositional := 15
  positiveExponent := ['e', '+']
  negativeExponent := ['e', '-']
  afterWhole := ['.', '0']

/-- The digits around the point: `digits` are the significant ones, and `point` of them (fewer
than none, more than all) stand before it. -/
def Layout.positional (layout : Layout) (digits : List Char) (point : Int) : List Char :=
  if point ≤ 0 then '0' :: '.' :: List.replicate (-point).toNat '0' ++ digits
  else if digits.length ≤ point.toNat then
    digits ++ List.replicate (point.toNat - digits.length) '0' ++ layout.afterWhole
  else digits.take point.toNat ++ '.' :: digits.drop point.toNat

/-- The digits with one of them before the point and the power of ten behind. -/
def Layout.scientific (layout : Layout) (digits : List Char) (power : Int) : List Char :=
  let mantissa := match digits with
    | [] => []
    | [d] => [d]
    | d :: ds => d :: '.' :: ds
  let mark := if power < 0 then layout.negativeExponent else layout.positiveExponent
  mantissa ++ mark ++ digitsOf power.natAbs

/-- The text of a decimal. -/
def Layout.writeDigits (layout : Layout) (d : Digits) : List Char :=
  let digits := digitsOf d.significand
  let power := d.exponent + digits.length - 1
  if layout.leastPositional ≤ power ∧ power ≤ layout.greatestPositional then
    layout.positional digits (power + 1)
  else layout.scientific digits power

/-- The text of a double that is neither infinite nor a NaN. Zero keeps its sign. -/
def Layout.write (layout : Layout) (x : Float) : List Char :=
  let bits := x.toBits.toNat
  let sign := if bits / twoTo 63 = 1 then ['-'] else []
  let magnitude := Binary.ofBits (bits % twoTo 63)
  sign ++
    if magnitude.significand = 0 then '0' :: layout.afterWhole
    else layout.writeDigits magnitude.shortest

end Decimal

end DtoInterfaces
