import DtoInterfaces.Decimal.Layout
import DtoInterfaces.Json.Number
import DtoInterfaces.Text.Quoted

/-!
# What can be wrong with a document

A document is read for a purpose, and the reading stops at the first problem in the order of the
text. Either the text itself makes no sense there, or it makes sense and is not what the reader
wants; only in the second case is there something to say about it.

## Main definitions

* `Found` — what stands at a place, as a message describes it.
* `Expected` — what should stand there.
* `Problem` — a value of the wrong shape.
* `Fault` — the first problem of a document.
* `Problem.message` — the wording.
-/

namespace DtoInterfaces

namespace Json

/-- What stands at a place of a document. -/
inductive Found where
  | null
  | boolean (value : Bool)
  | number (value : Number)
  | text (value : String)
  | sequence
  | map
deriving DecidableEq

/-- The description of what was found. -/
def Found.describe : Found → String
  | .null => "null"
  | .boolean b => "boolean `" ++ (if b then "true" else "false") ++ "`"
  | .number (.integer n) => "integer `" ++ String.ofList (writeInt n) ++ "`"
  | .number (.double x) =>
    "floating point `" ++ String.ofList (Decimal.Layout.document.write x) ++ "`"
  | .text s => "string " ++ Text.quoted s
  | .sequence => "sequence"
  | .map => "map"

/-- What a reader wants at a place of a document. -/
inductive Expected where
  | text
  | boolean
  /-- An object whose names are the names of properties, classes or enums. -/
  | propertyMap
  | sequence
  /-- The value that carries no information, `null`. -/
  | unit
  /-- A record of the given name. -/
  | record (name : String)
deriving DecidableEq

/-- The description of what is wanted. -/
def Expected.describe : Expected → String
  | .text => "a string"
  | .boolean => "a boolean"
  | .propertyMap => "a map keyed by property name"
  | .sequence => "a sequence"
  | .unit => "unit"
  | .record name => "struct " ++ name

/-- A document that makes sense and has the wrong shape. -/
inductive Problem where
  /-- A value of another kind than the one wanted. -/
  | mismatch (found : Found) (expected : Expected)
  /-- A field of a record that is given twice. -/
  | duplicateField (name : String)
  /-- A field of a record that has to be given and is not. -/
  | missingField (name : String)
  /-- A record written as a list that ends before the fields that have to be given. -/
  | tooShort (length : Nat) (record : String) (fields : Nat)
  /-- None of the alternatives has this name. -/
  | unknownAlternative (name : String) (alternatives : List String)
  /-- The value has none of the shapes that the named type of values allows. -/
  | noShape (type : String)
  /-- A nested class without the name of the class. -/
  | classRequired (kind : String)
deriving DecidableEq

/-- The wording of a problem. -/
def Problem.message : Problem → String
  | .mismatch found expected =>
    "invalid type: " ++ found.describe ++ ", expected " ++ expected.describe
  | .duplicateField name => "duplicate field `" ++ name ++ "`"
  | .missingField name => "missing field `" ++ name ++ "`"
  | .tooShort length record fields =>
    "invalid length " ++ String.ofList (Decimal.digitsOf length) ++ ", expected struct " ++ record ++
      " with " ++ String.ofList (Decimal.digitsOf fields) ++ " elements"
  | .unknownAlternative name alternatives =>
    "unknown variant `" ++ name ++ "`, expected one of " ++
      String.intercalate ", " (alternatives.map fun a => "`" ++ a ++ "`")
  | .noShape type => "data did not match any variant of untagged enum " ++ type
  | .classRequired kind => "cast '" ++ kind ++ "' requires a \"class\""

/-- Why a document cannot be read. -/
inductive Fault where
  /-- The text makes no sense, or its value cannot be represented. -/
  | malformed
  /-- The text makes sense and has the wrong shape. -/
  | unsuitable (problem : Problem)
deriving DecidableEq

/-- The wording of a fault. -/
def Fault.message : Fault → String
  | .malformed => "not a well-formed document"
  | .unsuitable problem => problem.message

end Json

end DtoInterfaces
