import DtoInterfaces.ClassName
import DtoInterfaces.Text.WordChar

/-!
# Finding the class that a source file declares

A source file is not parsed. The first place that looks like a declaration of a namespace and the
first place that looks like a declaration of a class are taken for what they look like, each on
its own, whichever comes first and whatever surrounds them.

A namespace looks like the word `namespace`, at least one blank, and some text that a semicolon
ends. A class looks like the word `class`, at least one blank, and a word.

## Main definitions

* `firstHit` — the first place of a text where something is found.
* `namespaceAt?`, `classAt?` — what is declared at a place.
* `declaredClass?` — the qualified name of the class that a text declares.
-/

namespace DtoInterfaces

namespace SourceScan

/-- What follows a word at the front of a text. -/
def afterWord? (word cs : List Char) : Option (List Char) :=
  if word.isPrefixOf cs then some (cs.drop word.length) else none

/-- The first find, looking at every place of a text from the left. -/
def firstHit {α : Type} (find : List Char → Option α) : List Char → Option α
  | [] => find []
  | c :: cs =>
    match find (c :: cs) with
    | some a => some a
    | none => firstHit find cs

/-- The text between the word `namespace` and the next semicolon, if the word stands at the front.
The text starts with a blank and goes on behind it. -/
def namespaceAt? (cs : List Char) : Option (List Char) :=
  match afterWord? "namespace".toList cs with
  | none => none
  | some rest =>
    match rest.takeWhile (· ≠ ';') with
    | blank :: c :: name =>
      if Text.isBlank blank && ';' ∈ rest then some (blank :: c :: name) else none
    | _ => none

/-- The word behind the word `class` and at least one blank, if the latter stands at the front. -/
def classAt? (cs : List Char) : Option (List Char) :=
  match afterWord? "class".toList cs with
  | none => none
  | some rest =>
    match rest, (rest.dropWhile Text.isBlank).takeWhile Text.isWordChar with
    | blank :: _, c :: name => if Text.isBlank blank then some (c :: name) else none
    | _, _ => none

/-- The qualified name of the class that a text declares, as characters. -/
def declaredClassChars? (cs : List Char) : Option (List Char) :=
  match firstHit namespaceAt? cs, firstHit classAt? cs with
  | some space, some name =>
    some (ClassName.normalChars (Text.trim space) ++ ClassName.separator :: name)
  | _, _ => none

/-- The qualified name of the class that a text declares. -/
def declaredClass? (source : String) : Option String :=
  (declaredClassChars? source.toList).map String.ofList

end SourceScan

end DtoInterfaces
