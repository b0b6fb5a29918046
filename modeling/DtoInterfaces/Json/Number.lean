import DtoInterfaces.Decimal.Layout
import DtoInterfaces.Decimal.Scaled
import DtoInterfaces.Json.Rest

/-!
# The numbers of a document

A document number is first taken apart into the digits it is spelled with. What number that is
comes second: a whole number that fits into 64 bits, signed or unsigned, is kept exactly, and
everything else is a double. The spelling `-0` is a double as well, since no integer has a sign
at zero. A number whose double would be infinite has no value, although its spelling is legal.

## Main definitions

* `Spelling` — the digits of a number.
* `Spelling.scan?` — the longest spelling at the front of a text.
* `Number` — an exact integer or a double.
* `Number.ofSpelling?` — the number that is spelled, if it has a value.
* `Number.write` — the text of a number.
-/

namespace DtoInterfaces

namespace Json

/-! ### Spellings -/

/-- The parts of a spelled number; the digits are values from zero to nine. -/
structure Spelling where
  negative : Bool
  /-- The digits before the point. -/
  whole : List Nat
  /-- The digits after the point; empty if there is none. -/
  fraction : List Nat
  /-- The power of ten, if one is written. -/
  exponent : Option Int
deriving DecidableEq

/-- The value of a decimal digit. -/
def digit? (c : Char) : Option Nat := if c.isDigit then some (c.toNat - '0'.toNat) else none

/-- The digits at the front of a text, and what follows them. -/
def digitRun : (cs : List Char) → List Nat × Rest cs
  | [] => ([], .whole [])
  | c :: cs =>
    match digit? c with
    | none => ([], .whole (c :: cs))
    | some d =>
      let (ds, rest) := digitRun cs
      (d :: ds, rest.behind c)

/-- The natural number with the given decimal digits. -/
def ofDigits (ds : List Nat) : Nat := ds.foldl (fun n d => 10 * n + d) 0

/-- The digits before the point: a zero that no digit follows, or a run that does not start with
a zero. -/
def scanWhole? (cs : List Char) : Option (List Nat × Rest cs) :=
  match digitRun cs with
  | ([], _) => none
  | (0 :: _ :: _, _) => none
  | run => some run

/-- The point with at least one digit, or nothing. -/
def scanFraction? (cs : List Char) : Option (List Nat × Rest cs) :=
  match cs with
  | '.' :: cs =>
    match digitRun cs with
    | ([], _) => none
    | (ds, rest) => some (ds, rest.behind '.')
  | cs => some ([], .whole cs)

/-- The sign of an exponent; it may be left out. -/
def scanSign (cs : List Char) : Bool × Rest cs :=
  match cs with
  | '-' :: cs => (true, (Rest.whole cs).behind '-')
  | '+' :: cs => (false, (Rest.whole cs).behind '+')
  | cs => (false, .whole cs)

/-- The exponent with at least one digit, or nothing. -/
def scanExponent? (cs : List Char) : Option (Option Int × Rest cs) :=
  match cs with
  | [] => some (none, .whole [])
  | c :: cs =>
    if c = 'e' ∨ c = 'E' then
      let (negative, signed) := scanSign cs
      match digitRun signed.1 with
      | ([], _) => none
      | (ds, rest) =>
        let power : Int := ofDigits ds
        some (some (if negative then -power else power), (signed.after rest).behind c)
    else some (none, .whole (c :: cs))

/-- The spelled number at the front of a text, and what follows it. A part that has been begun
must be finished: `1.` and `1e` spell nothing. -/
def Spelling.scan? (negative : Bool) (cs : List Char) : Option (Spelling × Rest cs) := do
  let (whole, rest) ← scanWhole? cs
  let (fraction, rest') ← scanFraction? rest.1
  let (exponent, rest'') ← scanExponent? rest'.1
  some (⟨negative, whole, fraction, exponent⟩, (rest.after rest').after rest'')

/-! ### Values -/

/-- A number: exact if it is an integer of at most 64 bits, signed or unsigned. -/
inductive Number where
  | integer (value : Int)
  | double (value : Float)
deriving DecidableEq, Inhabited

/-- The least exact integer. -/
def leastInteger : Int := -(Nat.pow 2 63 : Nat)

/-- The greatest exact integer. -/
def greatestInteger : Int := (Nat.pow 2 64 - 1 : Nat)

/-- The double of a spelled number; `none` if it would be infinite. The digits go into a
significand of 64 bits as long as they fit, each digit before the point that does not fit raises
the power of ten by one, and each digit after the point that fits lowers it by one. -/
def Spelling.double? (s : Spelling) : Option Float :=
  let (significand, wholeLeft) := Decimal.absorb 0 s.whole
  let (significand, fractionLeft) := Decimal.absorb significand s.fraction
  let absorbed := s.fraction.length - fractionLeft.length
  let power : Int := wholeLeft.length - absorbed + s.exponent.getD 0
  (Decimal.scaled? significand power).map fun x => if s.negative then -x else x

/-- The number that is spelled; `none` if it is too large for a double. -/
def Number.ofSpelling? (s : Spelling) : Option Number :=
  let value : Int := if s.negative then -(ofDigits s.whole : Int) else ofDigits s.whole
  if s.fraction = [] ∧ s.exponent = none ∧ leastInteger ≤ value ∧ value ≤ greatestInteger ∧
      ¬ (s.negative = true ∧ value = 0) then
    some (.integer value)
  else s.double?.map .double

/-- The text of an integer. -/
def writeInt (n : Int) : List Char :=
  if n < 0 then '-' :: Decimal.digitsOf n.natAbs else Decimal.digitsOf n.natAbs

/-- The text of a number. -/
def Number.write : Number → List Char
  | .integer n => writeInt n
  | .double x => Decimal.Layout.document.write x

end Json

end DtoInterfaces
