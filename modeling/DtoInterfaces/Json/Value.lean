import DtoInterfaces.Json.Document

/-!
# Values and their text

A value is a document that makes sense, without its spelling. Objects keep their members in a
given order; the values that are kept from a document have their members sorted by name, with
the last member of a name winning.

There are two layouts. The compact one has no separators at all. The indented one puts every part
of a collection on a line of its own, two spaces deeper than the collection; an empty collection
stays on its line.

## Main definitions

* `Value` — the values.
* `Doc.value` — the value of a document.
* `Doc.ofValue` — the document of a value.
* `Value.compact`, `Value.indented` — the two layouts.
-/

namespace DtoInterfaces

namespace Json

/-- A value of a document. -/
inductive Value where
  | null
  | bool (value : Bool)
  | number (value : Number)
  | string (value : String)
  | array (items : List Value)
  | object (members : List (String × Value))
deriving Inhabited

/-! ### Documents and values -/

/-- Insert a member into an object whose members are sorted by name; a member of the same name is
replaced. -/
def insertMember (name : String) (v : Value) : List (String × Value) → List (String × Value)
  | [] => [(name, v)]
  | (name', v') :: rest =>
    if name < name' then (name, v) :: (name', v') :: rest
    else if name = name' then (name, v) :: rest
    else (name', v') :: insertMember name v rest

mutual

/-- The value of a document, with sorted objects. It is meant for readable documents; a part that
cannot be read counts as `null` and a name that cannot be read is left out. -/
def Doc.value : Doc → Value
  | .null | .unreadable | .broken => .null
  | .bool b => .bool b
  | .number n => .number n
  | .string s => .string s
  | .array items => .array (Doc.values items)
  | .object members => .object (Doc.memberValues [] members)

/-- The values of the items. -/
def Doc.values : List Doc → List Value
  | [] => []
  | d :: ds => d.value :: Doc.values ds

/-- The values of the members, inserted one after the other. -/
def Doc.memberValues (sorted : List (String × Value)) : List (Key × Doc) → List (String × Value)
  | [] => sorted
  | (.name name, d) :: ds => Doc.memberValues (insertMember name d.value sorted) ds
  | (_, _) :: ds => Doc.memberValues sorted ds

end

mutual

/-- The document of a value. -/
def Doc.ofValue : Value → Doc
  | .null => .null
  | .bool b => .bool b
  | .number n => .number n
  | .string s => .string s
  | .array items => .array (Doc.ofValues items)
  | .object members => .object (Doc.ofMembers members)

/-- The documents of the items. -/
def Doc.ofValues : List Value → List Doc
  | [] => []
  | v :: vs => Doc.ofValue v :: Doc.ofValues vs

/-- The documents of the members. -/
def Doc.ofMembers : List (String × Value) → List (Key × Doc)
  | [] => []
  | (name, v) :: vs => (.name name, Doc.ofValue v) :: Doc.ofMembers vs

end

/-! ### Layouts -/

/-- The word of a truth value. -/
def writeBool (b : Bool) : List Char := if b then ['t', 'r', 'u', 'e'] else ['f', 'a', 'l', 's', 'e']

mutual

/-- The text of a value without separators. -/
def Value.compact : Value → List Char
  | .null => ['n', 'u', 'l', 'l']
  | .bool b => writeBool b
  | .number n => n.write
  | .string s => writeString s.toList
  | .array items => '[' :: Value.compactItems items ++ [']']
  | .object members => '\x7b' :: Value.compactMembers members ++ ['\x7d']

/-- The items, with commas between them. -/
def Value.compactItems : List Value → List Char
  | [] => []
  | [v] => v.compact
  | v :: vs => v.compact ++ ',' :: Value.compactItems vs

/-- The members, with commas between them. -/
def Value.compactMembers : List (String × Value) → List Char
  | [] => []
  | [(name, v)] => writeString name.toList ++ ':' :: v.compact
  | (name, v) :: vs =>
    writeString name.toList ++ ':' :: v.compact ++ ',' :: Value.compactMembers vs

end

/-- A new line, indented. -/
def newLine (depth : Nat) : List Char := '\n' :: List.replicate (2 * depth) ' '

mutual

/-- The text of a value with every part on a line of its own; `depth` collections are open around
it. -/
def Value.indented (depth : Nat) : Value → List Char
  | .null => ['n', 'u', 'l', 'l']
  | .bool b => writeBool b
  | .number n => n.write
  | .string s => writeString s.toList
  | .array [] => ['[', ']']
  | .array items => '[' :: Value.indentedItems (depth + 1) items ++ newLine depth ++ [']']
  | .object [] => ['\x7b', '\x7d']
  | .object members =>
    '\x7b' :: Value.indentedMembers (depth + 1) members ++ newLine depth ++ ['\x7d']

/-- The items, each on a line. -/
def Value.indentedItems (depth : Nat) : List Value → List Char
  | [] => []
  | [v] => newLine depth ++ v.indented depth
  | v :: vs => newLine depth ++ v.indented depth ++ ',' :: Value.indentedItems depth vs

/-- The members, each on a line. -/
def Value.indentedMembers (depth : Nat) : List (String × Value) → List Char
  | [] => []
  | [(name, v)] => newLine depth ++ writeString name.toList ++ ':' :: ' ' :: v.indented depth
  | (name, v) :: vs =>
    newLine depth ++ writeString name.toList ++ ':' :: ' ' :: v.indented depth ++
      ',' :: Value.indentedMembers depth vs

end

end Json

end DtoInterfaces
