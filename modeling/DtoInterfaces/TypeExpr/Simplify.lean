import DtoInterfaces.TypeExpr.Basic

/-!
# Simplified unions

A union is simplified by putting the members of inner unions in the place of those unions and
keeping every member once, where it comes first. What is left over can be fewer than two members:
a single one stands for itself, and none at all tells nothing. Only unions are simplified; an
array is left as it is, whatever its items are.

## Main definitions

* `TypeExpr.alternatives` — the members of a union; any other type is its only alternative.
* `TypeExpr.simplify` — the simplified form.
* `TypeExpr.ofAlternatives` — the simplified union of some types.
-/

namespace DtoInterfaces

namespace TypeExpr

/-- The members of a union; any other type stands for itself. -/
def alternatives : TypeExpr → List TypeExpr
  | union ts => ts
  | t => [t]

/-- The type that allows the given alternatives. -/
def ofDistinct : List TypeExpr → TypeExpr
  | [] => any
  | [t] => t
  | ts => union ts

mutual

/-- The simplified form of a type. -/
def simplify : TypeExpr → TypeExpr
  | union ts => ofDistinct (simplifyAll ts).eraseDups
  | t => t

/-- The alternatives of the simplified forms, one after the other. -/
def simplifyAll : List TypeExpr → List TypeExpr
  | [] => []
  | t :: ts => t.simplify.alternatives ++ simplifyAll ts

end

/-- The simplified union of some types. -/
def ofAlternatives (ts : List TypeExpr) : TypeExpr := (union ts).simplify

end TypeExpr

end DtoInterfaces
