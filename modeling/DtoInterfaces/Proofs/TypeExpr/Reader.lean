import DtoInterfaces.TypeExpr.Simplify
import DtoInterfaces.TypeExpr.Text

/-!
# Reading types

A reader for the texts of types. A type is a union of items with bars between them; an item is a
word, a text between quotes or a union in parentheses, followed by any number of brackets. A word
is one of the basic types, a decimal integer, or the name of an interface.

The reader goes through the text from left to right and looks at every character once. What it has
to remember is where it stands within an item, the members of the union that it has read so far,
and the members of the unions around that one, one list for each parenthesis that is open.

## The end of a word

Nothing closes a word. It ends where a character stands that no word holds, or where the text ends,
so the type of a word is settled one character later than that of a text or of an array. This is
why a place is asked for the type that would end there, and why the step from the end of a word is
the step from behind the type that it stands for.

## Main definitions

* `TypeExpr.ofWord?` — the type that a word stands for.
* `TypeReader.step`, `TypeReader.run` — the reader.
* `TypeExpr.read?` — the type of a text.

## Main results

* `TypeReader.step_of_type?` — the end of a word is like the end of anything else.
-/

namespace DtoInterfaces

namespace TypeExpr

/-! ### Words -/

/-- Whether a character holds the parts of a type apart; a word has no such character. -/
def isMark (c : Char) : Bool := [' ', '|', '[', ']', '(', ')', '\''].contains c

/-- The types that are words of their own. -/
def basicTypes : List TypeExpr := [any, string, number, boolean, object]

/-- Whether a word that starts with the character is an integer. -/
def startsInteger (c : Char) : Bool := c == '-' || c.isDigit

/-- The natural number with the given digits; there must be some. -/
def natural? (digits : List Char) : Option Nat :=
  if digits ≠ [] ∧ digits.all Char.isDigit then some (Nat.ofDigitChars 10 digits 0) else none

/-- The integer that a word spells. -/
def integer? : List Char → Option Int
  | '-' :: digits => (natural? digits).map fun n : Nat => -(n : Int)
  | digits => (natural? digits).map Int.ofNat

/-- The type that a word stands for. -/
def ofWord? : List Char → Option TypeExpr
  | [] => none
  | c :: cs =>
    if startsInteger c then (integer? (c :: cs)).map fun n => literal (.number n)
    else some ((basicTypes.find? (·.write == c :: cs)).getD (reference (String.ofList (c :: cs))))

end TypeExpr

/-! ### The reader -/

/-- Where a reader stands within a member of a union. -/
inductive Place where
  /-- In front of the member. -/
  | front
  /-- In a word, of which the characters have been read. -/
  | word (cs : List Char)
  /-- In a text, of which the characters have been read. -/
  | quoted (cs : List Char)
  /-- In such a text, behind a backslash. -/
  | escaped (cs : List Char)
  /-- Behind a type. -/
  | behind (t : TypeExpr)
  /-- Behind a type and an opening bracket. -/
  | bracket (t : TypeExpr)
  /-- Behind a type and a blank. -/
  | blank (t : TypeExpr)
  /-- Behind a type, a blank and a bar. -/
  | bar (t : TypeExpr)

/-- The type that ends at a place, if one can end there. -/
def Place.type? : Place → Option TypeExpr
  | word cs => TypeExpr.ofWord? cs
  | behind t => some t
  | _ => none

/-- A reader of types. -/
structure TypeReader where
  /-- The members before each parenthesis that is open, the innermost one first. -/
  outer : List (List TypeExpr)
  /-- The members of the union that is being read, without the last one. -/
  members : List TypeExpr
  /-- Where the last member is. -/
  place : Place

namespace TypeReader

/-- The reader in front of a text. -/
def start : TypeReader := ⟨[], [], .front⟩

/-- The type that ends where the reader stands, if no parenthesis is open. -/
def answer? (r : TypeReader) : Option TypeExpr :=
  match r.outer with
  | [] => r.place.type?.map fun t => .ofDistinct (r.members ++ [t])
  | _ :: _ => none

/-- One character behind a type: brackets make an array of it, a blank begins the bar, and a
parenthesis closes the union of which it is the last member. -/
def stepBehind (outer : List (List TypeExpr)) (members : List TypeExpr) (t : TypeExpr) (c : Char) :
    Option TypeReader :=
  if c = '[' then some ⟨outer, members, .bracket t⟩
  else if c = ' ' then some ⟨outer, members, .blank t⟩
  else if c = ')' then
    match outer with
    | [] => none
    | around :: outer => some ⟨outer, around, .behind (.ofDistinct (members ++ [t]))⟩
  else none

/-- One character. -/
def step : TypeReader → Char → Option TypeReader
  | ⟨outer, members, .front⟩, c =>
    if c = '(' then some ⟨members :: outer, [], .front⟩
    else if c = '\'' then some ⟨outer, members, .quoted []⟩
    else if TypeExpr.isMark c then none
    else some ⟨outer, members, .word [c]⟩
  | ⟨outer, members, .word cs⟩, c =>
    if TypeExpr.isMark c then (TypeExpr.ofWord? cs).bind fun t => stepBehind outer members t c
    else some ⟨outer, members, .word (cs ++ [c])⟩
  | ⟨outer, members, .quoted cs⟩, c =>
    if c = '\'' then some ⟨outer, members, .behind (.literal (.text (String.ofList cs)))⟩
    else if c = '\\' then some ⟨outer, members, .escaped cs⟩
    else some ⟨outer, members, .quoted (cs ++ [c])⟩
  | ⟨outer, members, .escaped cs⟩, c =>
    if c = '\'' ∨ c = '\\' then some ⟨outer, members, .quoted (cs ++ [c])⟩ else none
  | ⟨outer, members, .behind t⟩, c => stepBehind outer members t c
  | ⟨outer, members, .bracket t⟩, c =>
    if c = ']' then some ⟨outer, members, .behind (.array t)⟩ else none
  | ⟨outer, members, .blank t⟩, c =>
    if c = '|' then some ⟨outer, members, .bar t⟩ else none
  | ⟨outer, members, .bar t⟩, c =>
    if c = ' ' then some ⟨outer, members ++ [t], .front⟩ else none

/-- Read one character after the other. -/
def run (r : TypeReader) (cs : List Char) : Option TypeReader := cs.foldlM step r

end TypeReader

/-- The type of a text. -/
def TypeExpr.read? (text : String) : Option TypeExpr :=
  (TypeReader.start.run text.toList).bind TypeReader.answer?

/-! ### Runs -/

namespace TypeReader

variable {outer : List (List TypeExpr)} {members : List TypeExpr} {t : TypeExpr} {c : Char}

@[simp] theorem run_nil (r : TypeReader) : r.run [] = some r := rfl

@[simp] theorem run_cons (r : TypeReader) (c : Char) (cs : List Char) :
    r.run (c :: cs) = (r.step c).bind (·.run cs) := List.foldlM_cons

/-- One text after another: the reader goes on where it has come to. -/
@[simp] theorem run_append (r : TypeReader) (cs cs' : List Char) :
    r.run (cs ++ cs') = (r.run cs).bind (·.run cs') := List.foldlM_append

/-- **The end of a type.** Where a type can end, a mark does what it does behind that type. -/
theorem step_of_type? {place : Place} (h : place.type? = some t) (hc : TypeExpr.isMark c = true) :
    step ⟨outer, members, place⟩ c = stepBehind outer members t c := by
  cases place with
  | word cs =>
    rw [Place.type?] at h
    rw [step, if_pos hc, h, Option.bind_some]
  | behind t' =>
    rw [Place.type?, Option.some_inj] at h
    rw [step, h]
  | front | quoted _ | escaped _ | bracket _ | blank _ | bar _ => cases h

theorem run_word {w : List Char} (h : ∀ c ∈ w, TypeExpr.isMark c = false) (before : List Char) :
    run ⟨outer, members, .word before⟩ w = some ⟨outer, members, .word (before ++ w)⟩ := by
  induction w generalizing before with
  | nil => rw [run_nil, List.append_nil]
  | cons c w ih =>
    have hc : TypeExpr.isMark c = false := h c List.mem_cons_self
    have hstep : step ⟨outer, members, .word before⟩ c =
        some ⟨outer, members, .word (before ++ [c])⟩ := by
      simp [step, hc]
    rw [run_cons, hstep, Option.bind_some, ih fun d hd => h d (List.mem_cons_of_mem c hd),
      List.append_assoc, List.singleton_append]

/-- The characters of a text are kept, however they are escaped. -/
theorem run_escape (cs before : List Char) :
    run ⟨outer, members, .quoted before⟩ (TypeExpr.escape cs) =
      some ⟨outer, members, .quoted (before ++ cs)⟩ := by
  rw [TypeExpr.escape_eq_flatMap]
  induction cs generalizing before with
  | nil => rw [List.flatMap_nil, run_nil, List.append_nil]
  | cons c cs ih =>
    have hchar : run ⟨outer, members, .quoted before⟩ (TypeExpr.quoteChar c) =
        some ⟨outer, members, .quoted (before ++ [c])⟩ := by
      by_cases hc : c = '\'' ∨ c = '\\'
      · simp [TypeExpr.quoteChar, step, hc]
      · obtain ⟨hquote, hslash⟩ := not_or.1 hc
        simp [TypeExpr.quoteChar, step, hquote, hslash]
    rw [List.flatMap_cons, run_append, hchar, Option.bind_some, ih, List.append_assoc,
      List.singleton_append]

end TypeReader

end DtoInterfaces
