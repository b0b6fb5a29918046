import DtoInterfaces.Json.Reader
import DtoInterfaces.Text.Blank
import DtoInterfaces.Text.Segments

/-!
# Validation rules

The rules of a property are a list of tokens such as `required` or `min:1`. They are never
carried out; all that is asked of them is whether some word stands anywhere in them. A list of
rules is written as a list, or as one text in which the tokens are separated by bars. In the
latter form blanks around tokens do not count and empty tokens are dropped; in the former every
token is kept as it is.

## Main definitions

* `Rules` — the rules of a property.
* `Rules.parse` — the rules of a text with bars.
* `Rules.joined` — the tokens with bars between them.
* `Rules.mentions` — whether a word stands somewhere in the joined tokens.
* `Rules.read` — read rules from a document.
-/

namespace DtoInterfaces

/-- The rules of one property. -/
structure Rules where
  tokens : List String
deriving DecidableEq

namespace Rules

/-- The character between the tokens of rules that are written as one text. -/
def bar : Char := '|'

/-- The tokens of a text with bars. -/
def tokensOf (cs : List Char) : List (List Char) :=
  ((cs.splitOn bar).map Text.trim).filter (· ≠ [])

/-- The rules of a text with bars. -/
def parse (text : String) : Rules := ⟨(tokensOf text.toList).map String.ofList⟩

/-- The tokens with bars between them, as characters. -/
def joinedChars (rules : Rules) : List Char := [bar].intercalate (rules.tokens.map String.toList)

/-- The tokens with bars between them. -/
def joined (rules : Rules) : String := String.ofList rules.joinedChars

/-- Whether a word stands somewhere in the rules. -/
def mentions (rules : Rules) (word : String) : Bool :=
  Text.occursIn word.toList rules.joinedChars

/-! ### Reading -/

/-- The token of an entry of a list of rules: a string is one, and any other value is kept as its
compact text. -/
def tokenOf : Json.Doc → String
  | .string token => token
  | d => String.ofList d.value.compact

/-- The rules of a document in either written form. -/
def ofDoc? : Json.Doc → Option Rules
  | .string text => some (parse text)
  | .array items => some ⟨items.map tokenOf⟩
  | _ => none

/-- Read rules. -/
def read : Json.Reader Rules := Json.Reader.shaped "RawRules" ofDoc?

end Rules

end DtoInterfaces
