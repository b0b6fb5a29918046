import DtoInterfaces.Json.Number
import DtoInterfaces.TypeExpr.Basic

/-!
# The text of types

How a type is written in the generated interfaces. The members of a union are separated by bars,
and a union of several members is put in parentheses where it is the type of the items of an
array. A text as a type is put between single quotes; a quote or a backslash in it gets a
backslash in front, and every other character stands for itself.

## Main definitions

* `TypeExpr.quote` — a text between single quotes.
* `TypeExpr.write`, `TypeExpr.text` — the text of a type.

## Main results

* `TypeExpr.escape_eq_flatMap` — escaping treats every character on its own.
-/

namespace DtoInterfaces

namespace TypeExpr

/-- A text with a backslash in front of every occurrence of a character. -/
def escapeChar (escaped : Char) (cs : List Char) : List Char :=
  cs.flatMap fun c => if c = escaped then ['\\', c] else [c]

/-- A text as it stands between single quotes. Backslashes come first: the ones that are put in
front of quotes are not escaped again. -/
def escape (cs : List Char) : List Char := escapeChar '\'' (escapeChar '\\' cs)

/-- A text between single quotes. -/
def quote (cs : List Char) : List Char := '\'' :: escape cs ++ ['\'']

/-- How a single character stands between single quotes. -/
def quoteChar (c : Char) : List Char := if c = '\'' ∨ c = '\\' then ['\\', c] else [c]

/-- Escaping treats every character on its own. -/
theorem escape_eq_flatMap (cs : List Char) : escape cs = cs.flatMap quoteChar := by
  rw [escape, escapeChar, escapeChar, List.flatMap_assoc]
  refine congrArg (List.flatMap · cs) (funext fun c => ?_)
  by_cases hquote : c = '\''
  · simp [quoteChar, hquote]
  · by_cases hslash : c = '\\'
    · simp [quoteChar, hslash]
    · simp [quoteChar, hquote, hslash]

/-- The text of a literal. -/
def writeLiteral : Literal → List Char
  | .text s => quote s.toList
  | .number n => Json.writeInt n

/-- Whether a type is put in parentheses in front of brackets. -/
def isWide : TypeExpr → Bool
  | union (_ :: _ :: _) => true
  | _ => false

/-- A text in parentheses, if it needs them. -/
def parenthesize (needed : Bool) (cs : List Char) : List Char :=
  if needed then '(' :: cs ++ [')'] else cs

mutual

/-- The text of a type. -/
def write : TypeExpr → List Char
  | any => ['a', 'n', 'y']
  | string => ['s', 't', 'r', 'i', 'n', 'g']
  | number => ['n', 'u', 'm', 'b', 'e', 'r']
  | boolean => ['b', 'o', 'o', 'l', 'e', 'a', 'n']
  | object => ['o', 'b', 'j', 'e', 'c', 't']
  | array t => parenthesize t.isWide t.write ++ ['[', ']']
  | reference name => name.toList
  | literal l => writeLiteral l
  | union ts => writeMembers ts

/-- The members of a union with bars between them. -/
def writeMembers : List TypeExpr → List Char
  | [] => []
  | [t] => t.write
  | t :: ts => t.write ++ ' ' :: '|' :: ' ' :: writeMembers ts

end

/-- The text of a type, as a string. -/
def text (t : TypeExpr) : String := String.ofList t.write

end TypeExpr

end DtoInterfaces
