import DtoInterfaces.Json.Number
import DtoInterfaces.Json.StringLiteral

/-!
# Tokens of a document

A document is cut into tokens before its structure is looked at. Only four characters separate
tokens. The first character that starts no token ends the cutting: from there on the text means
nothing, so the last token says so and nothing follows it.

A string or a number can be spelled correctly and still have no value, because a surrogate has no
partner or because the number is too large. Such a token is kept, without a value: it matters
only to a reader who wants the value.

## Main definitions

* `Token` — the tokens.
* `Token.scan?` — the token that starts with a given character.
* `tokens` — the tokens of a text.
-/

namespace DtoInterfaces

namespace Json

/-- A token. -/
inductive Token where
  | null
  | bool (value : Bool)
  /-- A number; `none` if it is too large to have a value. -/
  | number (value : Option Number)
  /-- A string; `none` if it holds a lone surrogate. -/
  | string (value : Option String)
  | openArray
  | closeArray
  | openObject
  | closeObject
  | colon
  | comma
  /-- A place from which on the text means nothing. -/
  | unknown
deriving DecidableEq

/-- The four characters that may stand between tokens. -/
def isSeparator (c : Char) : Bool := c == ' ' || c == '\t' || c == '\n' || c == '\r'

/-- What follows the rest of a word whose first letter has been read. -/
def afterWord? (word : List Char) : (cs : List Char) → Option (Rest cs)
  | [] => if word = [] then some (.whole []) else none
  | c :: cs =>
    match word with
    | [] => some (.whole (c :: cs))
    | w :: word => if w = c then (afterWord? word cs).map (.behind c) else none

/-- The token that starts with the character `c`, and what follows it. -/
def Token.scan? (c : Char) (cs : List Char) : Option (Token × Rest cs) :=
  let here (t : Token) := some (t, .whole cs)
  match c with
  | '[' => here .openArray
  | ']' => here .closeArray
  | '\x7b' => here .openObject
  | '\x7d' => here .closeObject
  | ':' => here .colon
  | ',' => here .comma
  | 'n' => (afterWord? ['u', 'l', 'l'] cs).map fun rest => (.null, rest)
  | 't' => (afterWord? ['r', 'u', 'e'] cs).map fun rest => (.bool true, rest)
  | 'f' => (afterWord? ['a', 'l', 's', 'e'] cs).map fun rest => (.bool false, rest)
  | '"' =>
    (scanString? cs).map fun (pieces, rest) =>
      (.string ((decodePieces? pieces).map String.ofList), rest)
  | '-' =>
    (Spelling.scan? true cs).map fun (spelling, rest) =>
      (.number (Number.ofSpelling? spelling), rest)
  | c =>
    if c.isDigit then
      match Spelling.scan? false (c :: cs) with
      | some (spelling, rest) =>
        if h : rest.1.length ≤ cs.length then
          some (.number (Number.ofSpelling? spelling), ⟨rest.1, h⟩)
        else none
      | none => none
    else none

/-- The tokens of a text. -/
def tokens : (cs : List Char) → List Token
  | [] => []
  | c :: cs =>
    if isSeparator c then tokens cs
    else
      match Token.scan? c cs with
      | none => [.unknown]
      | some (t, rest) => t :: tokens rest.1
termination_by cs => cs.length
decreasing_by
  · simp
  · have := rest.2
    simp only [List.length_cons]
    omega

end Json

end DtoInterfaces
