import DtoInterfaces.Registry.Basic

/-!
# Classes and enums that a host declares

A host that has its classes at hand declares them by their construction instead of describing
them in a manifest. It says what construction from empty input yields, and gives an instance that
bypasses the constructor if there is one; without it that way of construction is tried all the
same and fails.

## Main definitions

* `DtoType`, `EnumType` — what a host declares.
* `DtoType.entry` — the class that is declared.
* `Registry.registerType`, `Registry.registerEnumType` — register a declaration.
-/

namespace DtoInterfaces

/-- A class as its host declares it. -/
structure DtoType where
  name : String
  parent : Option String := some ClassName.defaultBase
  isAbstract : Bool := false
  properties : List PropertyDecl := []
  fromEmptyInput : Except String DtoInstance
  withoutConstructor : Option DtoInstance := none

/-- An enum as its host declares it. -/
structure EnumType where
  name : String
  cases : List EnumCase

/-- The message of a construction that a declared class does not offer. -/
def bypassNotSupported : String := "construction without constructor is not supported"

/-- The class that is declared. -/
def DtoType.entry (t : DtoType) : ClassEntry where
  info := .ofNames t.name t.parent t.isAbstract t.properties
  fromEmptyInput := some t.fromEmptyInput
  bypassingConstructor := some (t.withoutConstructor.elim (.error bypassNotSupported) .ok)

namespace Registry

/-- Register a declared class. -/
def registerType (r : Registry) (t : DtoType) : Registry := r.register t.entry

/-- Register a declared enum. -/
def registerEnumType (r : Registry) (t : EnumType) : Registry := r.registerEnum t.name t.cases

end Registry

end DtoInterfaces
