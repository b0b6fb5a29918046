import DtoInterfaces.TypeExpr.Text

/-!
# Interfaces

An interface has a name and properties in a fixed order, each with a type and either required or
optional. It is written with one property on a line.

## Main definitions

* `PropertyType`, `Interface` — the interfaces.
* `writeProperty`, `Interface.write` — how they are written.
-/

namespace DtoInterfaces

/-- What an interface says about a property. -/
structure PropertyType where
  type : TypeExpr
  isOptional : Bool
deriving DecidableEq

/-- An interface. -/
structure Interface where
  name : String
  /-- The properties in the order in which they are written. -/
  properties : List (String × PropertyType)
deriving DecidableEq

/-- Whether an interface has no properties. -/
def Interface.isEmpty (i : Interface) : Bool := i.properties.isEmpty

/-- A property as it is written: its name, a question mark if it is optional, and its type. -/
def writeProperty (name : String) (p : PropertyType) : List Char :=
  name.toList ++ (if p.isOptional then ['?'] else []) ++ ':' :: ' ' :: p.type.write

namespace Interface

/-- The first line of an interface. -/
def openingLine (name : String) : List Char :=
  "export interface ".toList ++ name.toList ++ [' ', '\x7b']

/-- The line of a property. -/
def propertyLine (property : String × PropertyType) : List Char :=
  ' ' :: ' ' :: writeProperty property.1 property.2 ++ [';']

/-- The lines of an interface. -/
def lines (i : Interface) : List (List Char) :=
  openingLine i.name :: i.properties.map propertyLine ++ [['\x7d']]

/-- An interface as it is written. -/
def write (i : Interface) : List Char := ['\n'].intercalate i.lines

/-- An interface as it is written, as a string. -/
def text (i : Interface) : String := String.ofList i.write

end Interface

end DtoInterfaces
