import DtoInterfaces.Json.Reader

/-!
# Cases of enums

An enum has named cases in a declared order. A case may stand for a value, which is a signed
64-bit integer or a text; without one it stands for its name.

## Main definitions

* `EnumValue`, `EnumCase` — the values and the cases.
* `EnumCase.read`, `EnumCase.readList` — read them from a document.
-/

namespace DtoInterfaces

/-- The value behind a case. -/
inductive EnumValue where
  | integer (value : Int)
  | text (value : String)
deriving DecidableEq

/-- A case of an enum. -/
structure EnumCase where
  name : String
  value : Option EnumValue
deriving DecidableEq

/-- Whether an integer is a signed 64-bit one. -/
def isSigned64 (n : Int) : Bool := -(Nat.pow 2 63 : Nat) ≤ n && n < (Nat.pow 2 63 : Nat)

/-- The value behind a case, if the document is one. -/
def EnumValue.ofDoc? : Json.Doc → Option EnumValue
  | .number (.integer n) => if isSigned64 n then some (.integer n) else none
  | .string s => some (.text s)
  | _ => none

/-- Read the value behind a case. -/
def EnumValue.read : Json.Reader EnumValue := Json.Reader.shaped "EnumValue" EnumValue.ofDoc?

/-- Read a case. The name has to be given. -/
def EnumCase.read : Json.Reader EnumCase :=
  Json.Reader.record "EnumCase" 1
    [.setting "name" Json.Reader.text fun name c => { c with name },
      .setting "value" (Json.Reader.nullable EnumValue.read) fun value c => { c with value }]
    ⟨"", none⟩

/-- Read the cases of an enum. -/
def EnumCase.readList : Json.Reader (List EnumCase) := Json.Reader.sequence EnumCase.read

end DtoInterfaces
