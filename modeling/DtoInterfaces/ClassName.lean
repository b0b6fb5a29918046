import DtoInterfaces.Text.Blank
import DtoInterfaces.Text.Segments

/-!
# Class names

Classes and enums are known by qualified names, whose parts are separated by backslashes. A name
can be written with blanks around it and with a leading separator; its normal form has neither.
Taking the normal form trims first and then drops separators, and does not trim again: the
blanks of `\ A` are inside the name.

## Main definitions

* `ClassName.normalize` — the normal form of a name.
* `ClassName.short` — the last part of a name.
* `ClassName.interfaceName` — the name of the interface that describes a class.
-/

namespace DtoInterfaces

namespace ClassName

/-- The character between the parts of a qualified name. -/
def separator : Char := '\\'

/-- The normal form of a name, on characters. -/
def normalChars (cs : List Char) : List Char := (Text.trim cs).dropWhile (· == separator)

/-- The normal form of a name: no blanks around it as it is written, and then no separators in
front. -/
def normalize (name : String) : String := String.ofList (normalChars name.toList)

/-- The last part of a name as it stands. -/
def lastPart (name : String) : String := String.ofList (Text.afterLast separator name.toList)

/-- The last part of the normal form of a name. -/
def short (name : String) : String := lastPart (normalize name)

/-- The ending of class names that interface names do without. -/
def dtoEnding : List Char := ['D', 'T', 'O']

/-- The name of the interface of a class: its short name, without one ending `DTO`, followed by
`Interface`. -/
def interfaceName (name : String) : String :=
  String.ofList (Text.withoutEnd dtoEnding (short name).toList) ++ "Interface"

/-- The class from which every exported class has to inherit, unless another one is chosen. -/
def defaultBase : String := "FriendsOfHyperf\\ValidatedDTO\\SimpleDTO"

/-! ### Normal forms -/

@[simp] theorem toList_normalize (name : String) :
    (normalize name).toList = normalChars name.toList := String.toList_ofList

theorem head?_normalChars_ne {cs : List Char} {c : Char} (h : c ∈ (normalChars cs).head?) :
    c ≠ separator := by
  have := Text.head?_dropWhile_eq_false h
  simpa using this

theorem getLast?_normalChars_not_blank {cs : List Char} {c : Char}
    (h : c ∈ (normalChars cs).getLast?) : Text.isBlank c = false := by
  obtain ⟨front, hfront⟩ := List.dropWhile_suffix (· == separator) (l := Text.trim cs)
  have hlast : c ∈ (Text.trim cs).getLast? := by
    rw [← hfront, List.getLast?_append]
    rw [normalChars, Option.mem_def] at h
    rw [h]
    rfl
  exact Text.getLast?_trim_not_blank hlast

theorem normalChars_eq_self {cs : List Char} (hfirst : ∀ c ∈ cs.head?, Text.isBlank c = false)
    (hlast : ∀ c ∈ cs.getLast?, Text.isBlank c = false) (hsep : ∀ c ∈ cs.head?, c ≠ separator) :
    normalChars cs = cs := by
  rw [normalChars, Text.trim_eq_self hfirst hlast]
  exact Text.dropWhile_eq_self_of_head? (by simpa using hsep)

end ClassName

end DtoInterfaces
