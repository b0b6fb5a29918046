import DtoInterfaces.Json.Value
import Mathlib.Data.List.Basic

/-!
# Reading written strings

A string is written between quotes with some of its characters escaped, and read in two stages:
pieces first, characters then. Whatever the string is, what is written for it is scanned up to its
closing quote, and the pieces stand for its characters. A character is written by itself or by one
of the short escapes, and is then a piece of its own; the other control characters are written by
their unit, and units that small are no surrogates.

## Main definitions

* `scanned?` — what the scanner finds, and the text that it leaves.
* `Piece.StandsFor` — the character of a single piece.

## Main results

* `scanned?_escaped` — what is written for a string is scanned to its end.
* `tokens_writeString` — a written string is one token.
-/

namespace DtoInterfaces

namespace Json

variable {c : Char} {cs : List Char}

/-! ### Pieces and characters -/

/-- A piece that stands for a character without the help of its neighbours. -/
inductive Piece.StandsFor : Piece → Char → Prop where
  | char (c : Char) : StandsFor (.char c) c
  | unit {n : Nat} (h : n < 0xD800) : StandsFor (.unit n) (Char.ofNat n)

theorem decodePieces?_unit {n : Nat} (h : n < 0xD800) (pieces : List Piece) :
    decodePieces? (.unit n :: pieces) = (decodePieces? pieces).map (Char.ofNat n :: ·) := by
  have hhigh : isHighSurrogate n = false := by simp [isHighSurrogate]; omega
  have hlow : isLowSurrogate n = false := by simp [isLowSurrogate]; omega
  -- how a unit is decoded depends on whether another one follows
  rcases pieces with _ | ⟨_ | _, pieces⟩ <;> simp [decodePieces?, hhigh, hlow]

theorem decodePieces?_of_standsFor {pieces : List Piece}
    (h : List.Forall₂ Piece.StandsFor pieces cs) : decodePieces? pieces = some cs := by
  induction h with
  | nil => rfl
  | cons hpiece _ ih =>
    cases hpiece with
    | char c => rw [decodePieces?, ih, Option.map_some]
    | unit hn => rw [decodePieces?_unit hn, ih, Option.map_some]

/-! ### Scanning -/

/-- The pieces up to the closing quote, and the text behind it. -/
def scanned? (cs : List Char) : Option (List Piece × List Char) :=
  (scanString? cs).map fun (pieces, rest) => (pieces, rest.1)

/-- The same with one more piece in front. -/
def addPiece (piece : Piece) : List Piece × List Char → List Piece × List Char
  | (pieces, rest) => (piece :: pieces, rest)

theorem scanned?_quote (cs : List Char) : scanned? ('"' :: cs) = some ([], cs) := by
  rw [scanned?, scanString?]
  rfl

theorem scanned?_plain (hquote : c ≠ '"') (hslash : c ≠ '\\') (hplain : isControl c = false)
    (cs : List Char) : scanned? (c :: cs) = (scanned? cs).map (addPiece (.char c)) := by
  rw [scanned?, scanString?, if_neg (by simp [hplain]), scanned?]
  · cases scanString? cs <;> rfl
  · exact hquote
  · exact fun _ _ _ _ _ heq => absurd heq hslash
  · exact fun _ _ heq => absurd heq hslash

theorem scanned?_short {e : Char} (h : shortEscape? e = some c) (cs : List Char) :
    scanned? ('\\' :: e :: cs) = (scanned? cs).map (addPiece (.char c)) := by
  rw [scanned?, scanString?, h, scanned?]
  · cases scanString? cs <;> rfl
  · rintro a b c d cs' rfl
    cases h

theorem scanned?_unit {a b c d : Char} {n : Nat} (h : hexUnit? a b c d = some n)
    (cs : List Char) :
    scanned? ('\\' :: 'u' :: a :: b :: c :: d :: cs) = (scanned? cs).map (addPiece (.unit n)) := by
  rw [scanned?, scanString?, h, scanned?]
  cases scanString? cs <;> rfl

theorem hexUnit?_control : ∀ n < 0x20,
    hexUnit? '0' '0' (hexDigitChar (n / 16)) (hexDigitChar n) = some n := by
  decide

/-- **A written character is scanned as one piece**, which stands for that character. -/
theorem exists_scanned?_escapeChar (c : Char) : ∃ piece : Piece, piece.StandsFor c ∧
    ∀ cs, scanned? (escapeChar c ++ cs) = (scanned? cs).map (addPiece piece) := by
  unfold escapeChar
  split
  case h_8 hquote hslash _ _ _ _ _ =>
    split
    · rename_i hcontrol
      have hn : c.toNat < 0x20 := by simpa [isControl] using hcontrol
      refine ⟨.unit c.toNat, ?_, scanned?_unit (hexUnit?_control _ hn)⟩
      have hunit : (Piece.unit c.toNat).StandsFor (Char.ofNat c.toNat) := .unit (by omega)
      rwa [Char.ofNat_toNat] at hunit
    · rename_i hplain
      exact ⟨.char c, .char c, scanned?_plain hquote hslash (by simpa using hplain)⟩
  all_goals exact ⟨.char _, .char _, scanned?_short rfl⟩

/-- **What is written for a string is scanned** up to its closing quote. -/
theorem scanned?_escaped (cs rest : List Char) : ∃ pieces,
    List.Forall₂ Piece.StandsFor pieces cs ∧
      scanned? (cs.flatMap escapeChar ++ '"' :: rest) = some (pieces, rest) := by
  induction cs with
  | nil => exact ⟨[], .nil, scanned?_quote rest⟩
  | cons c cs ih =>
    obtain ⟨pieces, hpieces, hscanned⟩ := ih
    obtain ⟨piece, hpiece, hstep⟩ := exists_scanned?_escapeChar c
    refine ⟨piece :: pieces, .cons hpiece hpieces, ?_⟩
    rw [List.flatMap_cons, List.append_assoc, hstep, hscanned]
    rfl

/-! ### Tokens -/

theorem tokens_cons_of_scan? {t : Token} {rest : Rest cs} (hsep : isSeparator c = false)
    (h : Token.scan? c cs = some (t, rest)) : tokens (c :: cs) = t :: tokens rest.1 := by
  rw [tokens, if_neg (by simp [hsep]), h]

/-- **A written string is one token.** -/
theorem tokens_writeString (cs rest : List Char) :
    tokens (writeString cs ++ rest) = .string (some (String.ofList cs)) :: tokens rest := by
  obtain ⟨pieces, hpieces, hscanned⟩ := scanned?_escaped cs rest
  obtain ⟨⟨pieces', left⟩, hscan, heq⟩ := Option.map_eq_some_iff.1 hscanned
  obtain ⟨rfl, hleft⟩ := Prod.mk.inj heq
  have htoken : Token.scan? '"' (cs.flatMap escapeChar ++ '"' :: rest) =
      some (.string (some (String.ofList cs)), left) := by
    have hvalue : (decodePieces? pieces').map String.ofList = some (String.ofList cs) := by
      rw [decodePieces?_of_standsFor hpieces, Option.map_some]
    rw [← hvalue]
    exact Option.map_eq_some_iff.2 ⟨(pieces', left), hscan, rfl⟩
  rw [writeString, List.append_assoc, List.cons_append, List.singleton_append,
    tokens_cons_of_scan? (by decide) htoken, hleft]

end Json

end DtoInterfaces
