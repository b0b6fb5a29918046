import DtoInterfaces.Json.Value
import DtoInterfaces.PropertyMap

/-!
# Reading documents for a purpose

A reader turns a tree into a value of some type or reports the first fault. It is told how many
collections are open around the tree, because no reader follows more than `depthLimit` of them.
Readers meet the parts of a tree in the order of the text and stop at the first fault; that this
is also the first fault of the text is what the tree is made for.

Records have two written forms: an object, whose members come in any order and of which the
unknown ones are skipped, and a list, which gives the fields in their declared order and may end
early.

## Main definitions

* `Reader` — the type of readers.
* `text`, `boolean`, `nullable`, `sequence`, `propertyMap`, `kept` — readers for the basic shapes.
* `Field`, `record` — readers for records.
* `Reader.run` — read a whole document.
-/

namespace DtoInterfaces

namespace Json

/-- A reader: the number of collections open around the tree, and the tree. -/
abbrev Reader (α : Type) := Nat → Doc → Except Fault α

namespace Reader

/-- The fault of a tree that is of the wrong kind, or broken. -/
def refuse (d : Doc) (expected : Expected) : Fault :=
  match d.found? with
  | some found => .unsuitable (.mismatch found expected)
  | none => .malformed

/-- The inside of a collection is read only if the reader can follow one more. -/
def inside {α : Type} (depth : Nat) (read : Except Fault α) : Except Fault α :=
  if depth < depthLimit then read else .error .malformed

/-- A string. -/
def text : Reader String
  | _, .string s => .ok s
  | _, d => .error (refuse d .text)

/-- A truth value. -/
def boolean : Reader Bool
  | _, .bool b => .ok b
  | _, d => .error (refuse d .boolean)

/-- `null`, or what another reader reads. -/
def nullable {α : Type} (read : Reader α) : Reader (Option α)
  | _, .null => .ok none
  | depth, d => (read depth d).map some

/-- A list. -/
def sequence {α : Type} (read : Reader α) : Reader (List α)
  | depth, .array items => inside depth (items.mapM (read (depth + 1)))
  | _, d => .error (refuse d .sequence)

/-- The members of an object, put into a map one after the other. -/
def intoMap {α : Type} (read : Doc → Except Fault α) :
    PropertyMap α → List (Key × Doc) → Except Fault (PropertyMap α)
  | map, [] => .ok map
  | map, (.name name, d) :: members => do
    let value ← read d
    intoMap read (map.insert name value) members
  | _, _ :: _ => .error .malformed

/-- A map keyed by names. A repeated name keeps its first place and takes its last value. -/
def propertyMap {α : Type} (read : Reader α) : Reader (PropertyMap α)
  | depth, .object members => inside depth (intoMap (read (depth + 1)) .empty members)
  | _, d => .error (refuse d .propertyMap)

/-- Any value, kept as it is. -/
def kept : Reader Value := fun depth d =>
  if d.readable depth then .ok d.value else .error .malformed

/-- A tree that is looked at as a whole: it must be readable, and then it either has a shape that
`shape` knows or is no value of the named type. -/
def shaped {α : Type} (type : String) (shape : Doc → Option α) : Reader α := fun depth d =>
  if d.readable depth then
    match shape d with
    | some a => .ok a
    | none => .error (.unsuitable (.noShape type))
  else .error .malformed

/-! ### Records -/

/-- A field of a record that is built up in a value of type `σ`: its name, and how its value
changes that. -/
structure Field (σ : Type) where
  name : String
  read : Reader (σ → σ)

/-- The field that sets a part of the record. -/
def Field.setting {σ α : Type} (name : String) (read : Reader α) (set : α → σ → σ) : Field σ :=
  ⟨name, fun depth d => (read depth d).map set⟩

/-- The members of a record, in the order of the text. A name that no field has is skipped, and a
name of a field may come once; whether it has come before is settled before its value is read. -/
def recordMembers {σ : Type} (fields : List (Field σ)) (depth : Nat) :
    (seen : List String) → σ → List (Key × Doc) → Except Fault (List String × σ)
  | seen, s, [] => .ok (seen, s)
  | seen, s, (.name name, d) :: members =>
    match fields.find? (·.name == name) with
    | none =>
      if d.complete then recordMembers fields depth seen s members else .error .malformed
    | some field =>
      if name ∈ seen then .error (.unsuitable (.duplicateField name))
      else do
        let set ← field.read depth d
        recordMembers fields depth (name :: seen) (set s) members
  | _, _, _ :: _ => .error .malformed

/-- The items of a record written as a list: the fields in their order. Fields at the end may be
left out, and nothing may follow the last one. -/
def recordItems {σ : Type} (depth : Nat) : List (Field σ) → σ → List Doc → Except Fault σ
  | _, s, [] => .ok s
  | [], _, _ :: _ => .error .malformed
  | field :: fields, s, d :: items => do
    let set ← field.read depth d
    recordItems depth fields (set s) items

/-- A record in either form, of the given name, whose first `required` fields have to be given.
It is built up from `initial`. -/
def record {σ : Type} (name : String) (required : Nat) (fields : List (Field σ)) (initial : σ) :
    Reader σ
  | depth, .object members => inside depth do
    let (seen, s) ← recordMembers fields (depth + 1) [] initial members
    match (fields.take required).find? fun field => field.name ∉ seen with
    | some field => .error (.unsuitable (.missingField field.name))
    | none => .ok s
  | depth, .array items => inside depth do
    let s ← recordItems (depth + 1) fields initial items
    if items.length < required then
      .error (.unsuitable (.tooShort items.length name fields.length))
    else .ok s
  | _, d => .error (refuse d (.record name))

/-! ### Alternatives -/

/-- One of several named alternatives without further information: its name, or an object whose
only member has that name and the value `null`. A value of any other kind makes no sense here, and
neither does anything but a string where the name should stand. -/
def alternative {α : Type} (alternatives : List (String × α)) : Reader α
  | _, .string name => named name
  | depth, .object members => inside depth (
    match members with
    | (.name name, d) :: rest => do
      let a ← named name
      match d, rest with
      | .null, [] => .ok a
      | .null, _ :: _ => .error .malformed
      | d, _ => .error (refuse d .unit)
    | _ => .error .malformed)
  | _, _ => .error .malformed
where
  named (name : String) : Except Fault α :=
    match alternatives.lookup name with
    | some a => .ok a
    | none => .error (.unsuitable (.unknownAlternative name (alternatives.map Prod.fst)))

/-- Read a whole document, which must end with the value. -/
def run {α : Type} (read : Reader α) (text : String) : Except Fault α := do
  let document := Document.ofText text
  let a ← read 0 document.root
  if document.clean then .ok a else .error .malformed

end Reader

end Json

end DtoInterfaces
