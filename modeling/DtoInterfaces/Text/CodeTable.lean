/-!
# Tables of character codes

A property of Unicode characters is given here as a list of closed ranges of code points. The
tables themselves live in the modules named for their properties; this module only says when a
character belongs to one.

## Main definitions

* `CodeTable` — a list of closed ranges of code points.
* `CodeTable.contains` — membership of a character.
-/

namespace DtoInterfaces

namespace Text

/-- A set of characters, as closed ranges of code points. -/
abbrev CodeTable := List (Nat × Nat)

/-- Whether a character lies in one of the ranges. -/
def CodeTable.contains (table : CodeTable) (c : Char) : Bool :=
  table.any fun range => range.1 ≤ c.toNat && c.toNat ≤ range.2

theorem CodeTable.contains_iff {table : CodeTable} {c : Char} :
    table.contains c = true ↔ ∃ range ∈ table, range.1 ≤ c.toNat ∧ c.toNat ≤ range.2 := by
  simp [CodeTable.contains]

end Text

end DtoInterfaces
