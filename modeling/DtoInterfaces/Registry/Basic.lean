import DtoInterfaces.EnumCase
import DtoInterfaces.Shape
import DtoInterfaces.SortedMap

/-!
# The registry

The registry knows classes and enums by the normal forms of their names. Whatever is registered
last under a name is what the name stands for. The two tables are separate: one name can stand
for a class and for an enum.

Of a class the registry knows facts, and up to two ways to get an instance: construction from
empty input, and construction that bypasses the constructor. Either can be missing or fail, with
a message of its own.

## Main definitions

* `ClassInfo` — facts about a class.
* `ClassEntry` — a class with its ways of construction.
* `Registry` — the tables; `Registry.register` and `Registry.registerEnum` write to them.
* `Registry.classInfo?`, `Registry.enumCases`, `Registry.classNames` — what it knows.
* `Registry.instantiate` — an instance of a class.
* `Registry.extractShape` — the shape of a class, from whichever instance can be had.
-/

namespace DtoInterfaces

/-! ### Classes -/

/-- A property that the class itself declares. -/
structure PropertyDecl where
  name : String
  /-- The cast named by an annotation of the property. -/
  cast : Option String
deriving DecidableEq

/-- Facts about a class. -/
structure ClassInfo where
  name : String
  parent : Option String
  isAbstract : Bool
  properties : List PropertyDecl
deriving DecidableEq

/-- The facts about a class whose names are given in any spelling. -/
def ClassInfo.ofNames (name : String) (parent : Option String) (isAbstract : Bool)
    (properties : List PropertyDecl) : ClassInfo :=
  ⟨ClassName.normalize name, parent.map ClassName.normalize, isAbstract, properties⟩

/-- The last part of the name of the class. -/
def ClassInfo.shortName (info : ClassInfo) : String := ClassName.lastPart info.name

/-- The ways to get an instance of a class. -/
inductive Construction where
  | fromEmptyInput
  | bypassingConstructor
deriving DecidableEq

/-- How a message speaks of a way of construction. -/
def Construction.describe : Construction → String
  | fromEmptyInput => "with empty input"
  | bypassingConstructor => "without its constructor"

/-- A class as it is registered. A way of construction may be missing, or fail with a message. -/
structure ClassEntry where
  info : ClassInfo
  fromEmptyInput : Option (Except String DtoInstance)
  bypassingConstructor : Option (Except String DtoInstance)

/-- What a way of construction yields. -/
def ClassEntry.construct? (entry : ClassEntry) : Construction → Option (Except String DtoInstance)
  | .fromEmptyInput => entry.fromEmptyInput
  | .bypassingConstructor => entry.bypassingConstructor

/-! ### Failures -/

/-- Why there is no instance of a class. -/
inductive InstantiateError where
  | classNotFound (name : String)
  | unsupported (name : String) (construction : Construction)
  | failed (message : String)
deriving DecidableEq

/-- The wording. -/
def InstantiateError.message : InstantiateError → String
  | classNotFound name => "Class '" ++ name ++ "' not found"
  | unsupported name construction =>
    "Class '" ++ name ++ "' cannot be constructed " ++ construction.describe
  | failed message => message

/-- Why an enum has no known cases. -/
inductive EnumLookupError where
  | notFound (name : String)
  | notAnEnum (name : String)
deriving DecidableEq

/-- The wording. -/
def EnumLookupError.message : EnumLookupError → String
  | notFound name => "Enum '" ++ name ++ "' not found"
  | notAnEnum name => "'" ++ name ++ "' is not an enum"

/-- Why a class has no shape: neither way of construction has yielded an instance. -/
structure ExtractError where
  first : InstantiateError
  second : InstantiateError
deriving DecidableEq

/-- The wording. -/
def ExtractError.message (e : ExtractError) : String :=
  "could not instantiate (" ++ e.first.message ++ "; " ++ e.second.message ++ ")"

/-! ### The tables -/

/-- The known classes and enums. -/
structure Registry where
  classes : SortedMap String ClassEntry
  enums : SortedMap String (List EnumCase)

namespace Registry

/-- The registry that knows nothing. -/
def empty : Registry := ⟨.empty, .empty⟩

instance : Inhabited Registry := ⟨empty⟩

/-- Add a class under its name, in place of one that is there. -/
def register (r : Registry) (entry : ClassEntry) : Registry :=
  { r with classes := r.classes.insert entry.info.name entry }

/-- Add an enum under the normal form of a name, in place of one that is there. -/
def registerEnum (r : Registry) (name : String) (cases : List EnumCase) : Registry :=
  { r with enums := r.enums.insert (ClassName.normalize name) cases }

/-- The number of classes. -/
def size (r : Registry) : Nat := r.classes.size

/-- The class that a name stands for, in any spelling. -/
def find? (r : Registry) (name : String) : Option ClassEntry :=
  r.classes.get? (ClassName.normalize name)

/-- The facts about a class. -/
def classInfo? (r : Registry) (name : String) : Option ClassInfo := (r.find? name).map (·.info)

/-- Every name under which there is a class, in order. -/
def classNames (r : Registry) : List String := r.classes.keys

/-- The first property of that name that the class declares. -/
def declaredProperty? (r : Registry) (className property : String) : Option PropertyDecl :=
  (r.classInfo? className).bind fun info => info.properties.find? (·.name == property)

/-- The cases of an enum. -/
def enumCases (r : Registry) (name : String) : Except EnumLookupError (List EnumCase) :=
  match r.enums.get? (ClassName.normalize name) with
  | some cases => .ok cases
  | none =>
    if r.classes.contains (ClassName.normalize name) then
      .error (.notAnEnum (ClassName.normalize name))
    else .error (.notFound (ClassName.normalize name))

/-- An instance of a class, got in the given way. -/
def instantiate (r : Registry) (name : String) (construction : Construction) :
    Except InstantiateError DtoInstance :=
  match r.find? name with
  | none => .error (.classNotFound name)
  | some entry =>
    match entry.construct? construction with
    | none => .error (.unsupported entry.info.name construction)
    | some instance? => instance?.mapError .failed

/-- The shape of a class. Construction from empty input comes first, and construction that
bypasses the constructor only if that has failed. -/
def extractShape (r : Registry) (name : String) : Except ExtractError Shape :=
  match r.instantiate name .fromEmptyInput with
  | .ok i => .ok i.shape
  | .error first =>
    match r.instantiate name .bypassingConstructor with
    | .ok i => .ok i.shape
    | .error second => .error ⟨first, second⟩

/-! ### One lemma per operation -/

theorem find?_register (r : Registry) (entry : ClassEntry) (name : String) :
    (r.register entry).find? name =
      if ClassName.normalize name = entry.info.name then some entry else r.find? name := by
  simp only [find?, register, SortedMap.get?_insert, Std.LawfulEqOrd.compare_eq_iff_eq]

@[simp] theorem find?_registerEnum (r : Registry) (enumName : String) (cases : List EnumCase)
    (name : String) : (r.registerEnum enumName cases).find? name = r.find? name := rfl

end Registry

end DtoInterfaces
