import DtoInterfaces.Text.CodeTable

/-!
# Blank characters and trimming

A character is blank when it has the Unicode property `White_Space`. This is a larger set than
the four characters that separate the tokens of a JSON document, and a larger set than the one
core's `Char.isWhitespace` knows: it holds the no-break spaces, the line and paragraph
separators and the ideographic space as well.

## Main definitions

* `isBlank` — the property.
* `trim` — a text without the blanks at its two ends.

## Main results

* `trim_eq_self` — a text whose first and last characters are not blank is its own trimming.
* `head?_trim_not_blank`, `getLast?_trim_not_blank` — what is left starts and ends with a
  character that is not blank.
* `trim_trim` — trimming a second time changes nothing.
-/

namespace DtoInterfaces

namespace Text

/-- The Unicode property `White_Space`. -/
def blankTable : CodeTable :=
  [(0x09, 0x0D), (0x20, 0x20), (0x85, 0x85), (0xA0, 0xA0), (0x1680, 0x1680), (0x2000, 0x200A),
    (0x2028, 0x2029), (0x202F, 0x202F), (0x205F, 0x205F), (0x3000, 0x3000)]

/-- Whether a character is white space in the sense of Unicode. -/
def isBlank (c : Char) : Bool := blankTable.contains c

/-- Drop the blanks in front. -/
def trimStart (cs : List Char) : List Char := cs.dropWhile isBlank

/-- Drop the blanks behind. -/
def trimEnd (cs : List Char) : List Char := (cs.reverse.dropWhile isBlank).reverse

/-- Drop the blanks in front and behind; what stands between the ends is kept. -/
def trim (cs : List Char) : List Char := trimEnd (trimStart cs)

@[simp] theorem trim_nil : trim [] = [] := rfl

theorem dropWhile_eq_self_of_head? {α : Type} {p : α → Bool} :
    ∀ {l : List α}, (∀ a ∈ l.head?, p a = false) → l.dropWhile p = l
  | [], _ => rfl
  | a :: l, h => by simp [List.dropWhile, h a (by simp)]

theorem head?_dropWhile_eq_false {α : Type} {p : α → Bool} {l : List α} {a : α}
    (h : a ∈ (l.dropWhile p).head?) : p a = false := by
  induction l with
  | nil => simp at h
  | cons b l ih =>
    by_cases hb : p b = true
    · simp only [List.dropWhile_cons, hb, if_true] at h
      exact ih h
    · simp only [List.dropWhile_cons, hb] at h
      simp only [Bool.not_eq_true] at hb
      simp at h
      exact h ▸ hb

/-- The last character of a trimmed text is not blank. -/
theorem getLast?_trim_not_blank {cs : List Char} {c : Char} (h : c ∈ (trim cs).getLast?) :
    isBlank c = false := by
  simp only [trim, trimEnd, List.getLast?_reverse] at h
  exact head?_dropWhile_eq_false h

/-- The first character of a trimmed text is not blank. -/
theorem head?_trim_not_blank {cs : List Char} {c : Char} (h : c ∈ (trim cs).head?) :
    isBlank c = false := by
  simp only [trim, trimEnd, List.head?_reverse] at h
  have hsuffix : (trimStart cs).reverse.dropWhile isBlank <:+ (trimStart cs).reverse :=
    List.dropWhile_suffix _
  obtain ⟨front, hfront⟩ := hsuffix
  have hlast : (trimStart cs).reverse.getLast? = some c := by
    rw [← hfront, List.getLast?_append, Option.mem_def.1 h]
    rfl
  rw [List.getLast?_reverse] at hlast
  exact head?_dropWhile_eq_false (p := isBlank) (l := cs) hlast

/-- A text whose ends are not blank is its own trimming. -/
theorem trim_eq_self {cs : List Char} (hfirst : ∀ c ∈ cs.head?, isBlank c = false)
    (hlast : ∀ c ∈ cs.getLast?, isBlank c = false) : trim cs = cs := by
  have hstart : trimStart cs = cs := dropWhile_eq_self_of_head? hfirst
  have hend : cs.reverse.dropWhile isBlank = cs.reverse :=
    dropWhile_eq_self_of_head? (by simpa using hlast)
  rw [trim, hstart, trimEnd, hend, List.reverse_reverse]

/-- Trimming a second time changes nothing. -/
@[simp] theorem trim_trim (cs : List Char) : trim (trim cs) = trim cs :=
  trim_eq_self (fun _ h => head?_trim_not_blank h) (fun _ h => getLast?_trim_not_blank h)

end Text

end DtoInterfaces
