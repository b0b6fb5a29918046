import DtoInterfaces.ClassName
import DtoInterfaces.Json.Reader

/-!
# Casts

A cast says how the raw value of a property is turned into the value that the property holds.
The exporter only asks a cast for the type of that value. It knows a fixed set of kinds, nested
classes and enums; every other cast is kept by name and tells nothing.

A cast is written in two ways: as a name, or as an object with a `kind` and, for nested classes
and enums, the class or the enum that is meant.

## Main definitions

* `CastKind` — the kinds that are built in; each has a plain name and the name of a cast class.
* `CastKind.ofName?` — the kind of a name.
* `Cast` — the casts.
* `CastSpelling` — the two written forms, and `CastSpelling.cast`, what they mean.
* `Cast.read` — read a cast from a document.
-/

namespace DtoInterfaces

/-! ### Kinds -/

/-- The casts that are built in. -/
inductive CastKind where
  | string
  | integer
  /-- The same as `integer`. -/
  | long
  | float
  /-- The same as `float`. -/
  | double
  | boolean
  | array
  | collection
  | object
  | model
  /-- An enum that is not named. -/
  | enum
  | carbon
  | carbonImmutable
deriving DecidableEq

namespace CastKind

/-- All kinds. -/
def all : List CastKind :=
  [string, integer, long, float, double, boolean, array, collection, object, model, enum, carbon,
    carbonImmutable]

/-- The plain name of a kind. -/
def name : CastKind → String
  | string => "string"
  | integer => "integer"
  | long => "long"
  | float => "float"
  | double => "double"
  | boolean => "boolean"
  | array => "array"
  | collection => "collection"
  | object => "object"
  | model => "model"
  | enum => "enum"
  | carbon => "carbon"
  | carbonImmutable => "carbon_immutable"

/-- The short name of the cast class of a kind. -/
def className : CastKind → String
  | string => "StringCast"
  | integer => "IntegerCast"
  | long => "LongCast"
  | float => "FloatCast"
  | double => "DoubleCast"
  | boolean => "BooleanCast"
  | array => "ArrayCast"
  | collection => "CollectionCast"
  | object => "ObjectCast"
  | model => "ModelCast"
  | enum => "EnumCast"
  | carbon => "CarbonCast"
  | carbonImmutable => "CarbonImmutableCast"

/-- The kind whose plain name or class name is the short form of the given name, so that the
qualification of a cast class does not matter. -/
def ofName? (name : String) : Option CastKind :=
  all.find? fun kind => kind.name == ClassName.short name || kind.className == ClassName.short name

theorem mem_all (kind : CastKind) : kind ∈ all := by
  cases kind <;> decide

end CastKind

/-! ### Casts -/

/-- How a raw value becomes the value of a property. -/
inductive Cast where
  /-- A built-in cast. -/
  | primitive (kind : CastKind)
  /-- To an instance of another class. -/
  | nested (className : String)
  /-- To a case of an enum. -/
  | enumeration (enumName : String)
  /-- A cast that only its host knows. -/
  | custom (name : String)
deriving DecidableEq

/-- The cast of a name; a name without a kind is a custom cast. -/
def Cast.ofName (name : String) : Cast := (CastKind.ofName? name).elim (.custom name) .primitive

/-! ### Written forms -/

/-- A cast as it is written. -/
inductive CastSpelling where
  | name (name : String)
  | tagged (kind : String) (className enumName : Option String)

/-- Whether a kind stands for a nested class. -/
def isNestedKind (kind : String) : Bool :=
  ClassName.short kind == "dto" || ClassName.short kind == "DTOCast"

/-- The cast that is meant. A nested class has to be named; the enum may be left out. -/
def CastSpelling.cast : CastSpelling → Except Json.Problem Cast
  | name n => .ok (.ofName n)
  | tagged kind className enumName =>
    if isNestedKind kind then
      match className with
      | some c => .ok (.nested c)
      | none => .error (.classRequired kind)
    else
      match CastKind.ofName? kind, enumName with
      | some .enum, some e => .ok (.enumeration e)
      | some kind, _ => .ok (.primitive kind)
      | none, _ => .ok (.custom kind)

/-! ### Reading -/

/-- The members of a tagged cast that have been read so far. -/
structure TaggedCast where
  kind : String
  className : Option String
  enumName : Option String

/-- The fields of a tagged cast. -/
def TaggedCast.fields : List (Json.Reader.Field TaggedCast) :=
  [.setting "kind" Json.Reader.text fun kind c => { c with kind },
    .setting "class" (Json.Reader.nullable Json.Reader.text) fun className c => { c with className },
    .setting "enum" (Json.Reader.nullable Json.Reader.text) fun enumName c => { c with enumName }]

/-- The written form of a document, if it has one. -/
def CastSpelling.ofDoc? : Json.Doc → Option CastSpelling
  | .string n => some (.name n)
  | .object members =>
    match Json.Reader.recordMembers TaggedCast.fields 0 [] ⟨"", none, none⟩ members with
    | .ok (seen, c) =>
      if "kind" ∈ seen then some (.tagged c.kind c.className c.enumName) else none
    | .error _ => none
  | _ => none

/-- Read a cast. -/
def Cast.read : Json.Reader Cast := fun depth d => do
  let spelling ← Json.Reader.shaped "RawCast" CastSpelling.ofDoc? depth d
  spelling.cast.mapError .unsuitable

end DtoInterfaces
