import DtoInterfaces.Cast
import DtoInterfaces.PropertyMap
import DtoInterfaces.Rules

/-!
# Shapes

The shape of a class is what its instances tell about their properties: casts, rules and default
values, each keyed by the name of the property. An instance has an accessor for each of the
three. An accessor may be missing or fail; then its map counts as empty, and the other two are
not affected.

## Main definitions

* `Shape` — the three maps.
* `Shape.propertyNames` — the names of the properties, in the order of their first appearance.
* `Accessor`, `AccessorError`, `DtoInstance` — an instance, and what its accessors answer.
* `DtoInstance.shape` — the shape that an instance shows.
-/

namespace DtoInterfaces

/-- What the instances of a class tell about their properties. -/
structure Shape where
  casts : PropertyMap Cast
  rules : PropertyMap Rules
  defaults : PropertyMap Json.Value

namespace Shape

/-- The shape without properties. -/
def empty : Shape := ⟨.empty, .empty, .empty⟩

/-- Every name once: those of the casts, then those of the rules, then those of the default
values, as far as they have not come before. -/
def propertyNames (s : Shape) : List String :=
  (s.casts.keys ++ s.rules.keys ++ s.defaults.keys).eraseDups

end Shape

/-! ### Instances -/

/-- The accessors of an instance. -/
inductive Accessor where
  | casts
  | rules
  | defaults
deriving DecidableEq

/-- The name of an accessor. -/
def Accessor.name : Accessor → String
  | casts => "casts"
  | rules => "rules"
  | defaults => "defaults"

/-- Why an accessor has no answer. -/
inductive AccessorError where
  | notProvided (accessor : Accessor)
  | failed (accessor : Accessor) (message : String)
deriving DecidableEq

/-- The wording. -/
def AccessorError.message : AccessorError → String
  | notProvided accessor => accessor.name ++ "() is not provided"
  | failed accessor message => accessor.name ++ "() failed: " ++ message

/-- An instance of a class: what each accessor answers. -/
structure DtoInstance where
  casts : Except AccessorError (PropertyMap Cast)
  rules : Except AccessorError (PropertyMap Rules)
  defaults : Except AccessorError (PropertyMap Json.Value)

namespace DtoInstance

/-- The instance whose accessors answer with fixed maps; an accessor without a map is missing. -/
def ofMaps (casts : Option (PropertyMap Cast)) (rules : Option (PropertyMap Rules))
    (defaults : Option (PropertyMap Json.Value)) : DtoInstance where
  casts := casts.elim (.error (.notProvided .casts)) .ok
  rules := rules.elim (.error (.notProvided .rules)) .ok
  defaults := defaults.elim (.error (.notProvided .defaults)) .ok

/-- The answer of an accessor, with an empty map for no answer. -/
def orEmpty {α : Type} : Except AccessorError (PropertyMap α) → PropertyMap α
  | .ok m => m
  | .error _ => .empty

/-- The shape that an instance shows. -/
def shape (i : DtoInstance) : Shape := ⟨orEmpty i.casts, orEmpty i.rules, orEmpty i.defaults⟩

@[simp] theorem shape_ofMaps (casts : Option (PropertyMap Cast))
    (rules : Option (PropertyMap Rules)) (defaults : Option (PropertyMap Json.Value)) :
    (ofMaps casts rules defaults).shape =
      ⟨casts.getD .empty, rules.getD .empty, defaults.getD .empty⟩ := by
  cases casts <;> cases rules <;> cases defaults <;> rfl

end DtoInstance

end DtoInterfaces
