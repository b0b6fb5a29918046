import DtoInterfaces.Interface
import DtoInterfaces.Registry.Basic
import DtoInterfaces.TypeExpr.Simplify

/-!
# The interface of a class

What the interface of a class says about a property is taken from the shape of the class and
from the registry. For the type the first thing that is there decides: the cast of the property,
its rules, the annotation of its declaration. A type is always found; where nothing is known it is
`any`. Only a rule can make a property required, and not even a rule does if there is a default
value.

## Main definitions

* `CastKind.type`, `Rules.type` — the types of built-in casts, and the hints that rules give.
* `Registry.typeOfProperty` — the type of a property.
* `Shape.isOptional` — whether a property can be left out.
* `Registry.interface` — the interface of a class with a given shape.
-/

namespace DtoInterfaces

/-- The type of the values that a built-in cast makes. Points in time are written as texts, and
nothing is known of an enum that is not named. -/
def CastKind.type : CastKind → TypeExpr
  | string => .string
  | integer | long | float | double => .number
  | boolean => .boolean
  | array | collection => .anyArray
  | object | model => .object
  | enum => .string
  | carbon | carbonImmutable => .string

/-- The type that rules hint at: the first hint that they mention anywhere, and text if they
mention none. -/
def Rules.type (rules : Rules) : TypeExpr :=
  if rules.mentions "integer" || rules.mentions "numeric" then .number
  else if rules.mentions "boolean" then .boolean
  else if rules.mentions "array" then .anyArray
  else .string

/-- The literal of a case: its value, or its name if it has none. -/
def EnumCase.literal (c : EnumCase) : Literal :=
  match c.value with
  | some (.integer n) => .number n
  | some (.text s) => .text s
  | none => .text c.name

/-- The type of the values of some cases; text if there are none. -/
def typeOfCases : List EnumCase → TypeExpr
  | [] => .string
  | cases => .ofAlternatives (cases.map fun c => .literal c.literal)

/-- Whether a property can be left out: it has a default value, or no rules, or rules that never
mention `required`. -/
def Shape.isOptional (s : Shape) (property : String) : Bool :=
  s.defaults.contains property ||
    (s.rules.get? property).all fun rules => !rules.mentions "required"

namespace Registry

/-- The type of an enum; text if the enum is not known. -/
def typeOfEnum (r : Registry) (name : String) : TypeExpr :=
  match r.enumCases name with
  | .ok cases => typeOfCases cases
  | .error _ => .string

/-- The type of the values that a cast makes. A nested class stands for its interface, whether or
not that is generated. -/
def typeOfCast (r : Registry) : Cast → TypeExpr
  | .primitive kind => kind.type
  | .nested className => .reference (ClassName.interfaceName className)
  | .enumeration enumName => r.typeOfEnum enumName
  | .custom _ => .any

/-- The type that the declaration of a property is annotated with. -/
def typeOfDeclaration (r : Registry) (className property : String) : TypeExpr :=
  (((r.declaredProperty? className property).bind (·.cast)).bind CastKind.ofName?).elim .any
    CastKind.type

/-- The type of a property. -/
def typeOfProperty (r : Registry) (className : String) (s : Shape) (property : String) :
    TypeExpr :=
  match s.casts.get? property, s.rules.get? property with
  | some cast, _ => r.typeOfCast cast
  | none, some rules => rules.type
  | none, none => r.typeOfDeclaration className property

/-- The interface of a class with a given shape. -/
def interface (r : Registry) (className : String) (s : Shape) : Interface where
  name := ClassName.interfaceName className
  properties := s.propertyNames.map fun property =>
    (property, ⟨r.typeOfProperty className s property, s.isOptional property⟩)

end Registry

end DtoInterfaces
