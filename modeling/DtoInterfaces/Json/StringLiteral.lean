import DtoInterfaces.Json.Rest
import DtoInterfaces.Text.Quoted

/-!
# The string literals of a document

Between its quotes a document string holds characters and escapes. An escape of the form `\uXXXX`
names a 16-bit unit; two such units, a high and a low surrogate, stand for one character above
the basic plane, and a surrogate without its partner stands for none. Reading therefore has two
stages: the literal is scanned into pieces, which can only fail on its spelling, and the pieces
are decoded into characters, which can only fail on a lone surrogate.

## Main definitions

* `Piece` — a character, or the unit of an escape.
* `scanString?` — the pieces up to the closing quote.
* `decodePieces?` — the characters of the pieces.
* `escapeChar` — how a character is written between quotes.
-/

namespace DtoInterfaces

namespace Json

/-! ### Reading -/

/-- One element of a string literal. -/
inductive Piece where
  /-- A character, written as it is or by one of the short escapes. -/
  | char (c : Char)
  /-- The 16-bit unit of an escape `\uXXXX`. -/
  | unit (n : Nat)
deriving DecidableEq

/-- The value of a digit in base sixteen, in either case. -/
def hexDigit? (c : Char) : Option Nat :=
  if '0' ≤ c ∧ c ≤ '9' then some (c.toNat - '0'.toNat)
  else if 'a' ≤ c ∧ c ≤ 'f' then some (c.toNat - 'a'.toNat + 10)
  else if 'A' ≤ c ∧ c ≤ 'F' then some (c.toNat - 'A'.toNat + 10)
  else none

/-- The unit spelled by four digits. -/
def hexUnit? (a b c d : Char) : Option Nat := do
  let a ← hexDigit? a
  let b ← hexDigit? b
  let c ← hexDigit? c
  let d ← hexDigit? d
  some (((16 * a + b) * 16 + c) * 16 + d)

/-- The character of a short escape. -/
def shortEscape? : Char → Option Char
  | '"' => some '"'
  | '\\' => some '\\'
  | '/' => some '/'
  | 'b' => some '\x08'
  | 'f' => some '\x0c'
  | 'n' => some '\n'
  | 'r' => some '\r'
  | 't' => some '\t'
  | _ => none

/-- A control character must not stand in a string literal as it is. -/
def isControl (c : Char) : Bool := c.toNat < 0x20

/-- The pieces of a literal up to its closing quote, and what follows the quote. The opening quote
has been read already. -/
def scanString? : (cs : List Char) → Option (List Piece × Rest cs)
  | [] => none
  | '"' :: cs => some ([], (Rest.whole cs).behind '"')
  | '\\' :: 'u' :: a :: b :: c :: d :: cs => do
    let n ← hexUnit? a b c d
    let (pieces, rest) ← scanString? cs
    some (.unit n :: pieces,
      (((((rest.behind d).behind c).behind b).behind a).behind 'u').behind '\\')
  | '\\' :: e :: cs => do
    let c ← shortEscape? e
    let (pieces, rest) ← scanString? cs
    some (.char c :: pieces, (rest.behind e).behind '\\')
  | c :: cs =>
    if isControl c then none
    else do
      let (pieces, rest) ← scanString? cs
      some (.char c :: pieces, rest.behind c)

/-- The first half of a surrogate pair. -/
def isHighSurrogate (n : Nat) : Bool := 0xD800 ≤ n && n ≤ 0xDBFF

/-- The second half of a surrogate pair. -/
def isLowSurrogate (n : Nat) : Bool := 0xDC00 ≤ n && n ≤ 0xDFFF

/-- The character of a surrogate pair. -/
def joinSurrogates (high low : Nat) : Char :=
  Char.ofNat (0x10000 + 0x400 * (high - 0xD800) + (low - 0xDC00))

/-- The characters that the pieces stand for; `none` if a surrogate has no partner. -/
def decodePieces? : List Piece → Option (List Char)
  | [] => some []
  | .char c :: pieces => (decodePieces? pieces).map (c :: ·)
  | .unit high :: .unit low :: pieces =>
    if isHighSurrogate high then
      if isLowSurrogate low then (decodePieces? pieces).map (joinSurrogates high low :: ·) else none
    else if isLowSurrogate high then none
    else (decodePieces? (.unit low :: pieces)).map (Char.ofNat high :: ·)
  | .unit n :: pieces =>
    if isHighSurrogate n || isLowSurrogate n then none
    else (decodePieces? pieces).map (Char.ofNat n :: ·)

/-! ### Writing -/

/-- A digit in base sixteen, in lower case. -/
def hexDigitChar (n : Nat) : Char := Nat.digitChar (n % 16)

/-- How a character is written between quotes: the quote, the backslash and five controls by a
short escape, the other controls by their unit, everything else as it is. -/
def escapeChar (c : Char) : List Char :=
  match c with
  | '"' => ['\\', '"']
  | '\\' => ['\\', '\\']
  | '\x08' => ['\\', 'b']
  | '\x0c' => ['\\', 'f']
  | '\n' => ['\\', 'n']
  | '\r' => ['\\', 'r']
  | '\t' => ['\\', 't']
  | _ =>
    if isControl c then
      ['\\', 'u', '0', '0', hexDigitChar (c.toNat / 16), hexDigitChar c.toNat]
    else [c]

/-- A string literal with its quotes. -/
def writeString (cs : List Char) : List Char := '"' :: cs.flatMap escapeChar ++ ['"']

end Json

end DtoInterfaces
