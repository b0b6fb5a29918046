import DtoInterfaces.Proofs.Export.FileReader
import DtoInterfaces.Proofs.TypeExpr.QuotedText
import DtoInterfaces.Typing

/-!
# The signatures of properties

A property of an interface is declared by a key, a question mark if the property is optional, a
colon, and its type. The key has to denote the name of the property: an identifier is its own key,
and any other name needs quotes. Properties are written without quotes, whatever their names are, so
the names that are identifiers are the only ones whose properties are declared at all.

## Why no other name is declared by accident

A name that is no identifier could still look like a key, and even like a text between quotes, for
instance `'a': string; b`. It never denotes itself. A text between quotes is longer than the name
that it denotes, so the mark that is written behind the name would stand inside the quotes. There it
is one of the characters that are denoted, and it comes earlier in the name than in the text,
because the opening quote denotes nothing. So the first mark of the text is not the first one.

## Letters

Which characters beyond ASCII are letters depends on the version of the language that reads the
file. Nothing here does: the statements hold for every `Alphabet`, and all of them agree on ASCII.

## Main definitions

* `Alphabet` — the characters of identifiers.
* `Alphabet.IsKey` — the keys of a name.
* `Alphabet.IsSignature` — the beginning of a declaration of a property.

## Main results

* `QuotedText.Denotes.ne_append_mark` — a name with a mark behind it does not begin with a text
  between quotes that denotes the name.
* `writeProperty_eq_iff` — which properties of one type are written as one text.
* `Alphabet.isSignature_writeProperty_iff` — which properties are declared.
-/

namespace DtoInterfaces

open QuotedText

/-! ### Names in front of marks -/

/-- **A name with a mark behind it** does not begin with a text between quotes that denotes the
name. A mark is a character that means itself wherever it stands between quotes. -/
theorem QuotedText.Denotes.ne_append_mark {quote mark : Char} {key name rest rest' : List Char}
    (h : Denotes quote key name) (hmark : escaped? mark = some mark) (hslash : mark ≠ '\\')
    (hquote : mark ≠ quote) : name ++ mark :: rest ≠ key ++ rest' := by
  intro heq
  obtain ⟨body, rfl, hbody, -⟩ := h
  have hname : name ++ [mark] <+: name ++ mark :: rest := ⟨rest, by simp⟩
  have hopening : quote :: body <+: name ++ mark :: rest := ⟨quote :: rest', by simp [heq]⟩
  have hfirst : (name ++ mark :: rest).idxOf mark < name.length + 1 := by
    simpa using (hname.mem_iff_idxOf_lt_length mark).1 (by simp)
  -- the name is no longer than the body, so the first mark stands inside the quotes
  have hlen : name.length ≤ body.length := length_le_of_unescape? hbody.undone
  have hmem : mark ∈ body := by
    have hmem : mark ∈ quote :: body := by
      rw [hopening.mem_iff_idxOf_lt_length, List.length_cons]
      omega
    exact (List.mem_cons.1 hmem).resolve_left hquote
  obtain ⟨before, after, rfl, hbefore⟩ := List.eq_append_cons_of_mem hmem
  -- and it is denoted at a place of the name that is further in front
  obtain ⟨front, hfront, hle⟩ := exists_place_of_unescape? hmark hslash hbody.undone
  have hplace : (name ++ mark :: rest).idxOf mark < front.length + 1 := by
    have hstarts : front ++ [mark] <+: name ++ mark :: rest :=
      hfront.trans (List.prefix_append _ _)
    simpa using (hstarts.mem_iff_idxOf_lt_length mark).1 (by simp)
  have hnone : ¬ (name ++ mark :: rest).idxOf mark < before.length + 1 := by
    have hstarts : quote :: before <+: name ++ mark :: rest :=
      List.IsPrefix.trans ⟨mark :: after, by simp⟩ hopening
    intro hlt
    have hmem : mark ∈ quote :: before := by
      rw [hstarts.mem_iff_idxOf_lt_length, List.length_cons]
      exact hlt
    exact (List.mem_cons.1 hmem).elim hquote hbefore
  omega

/-! ### Keys -/

/-- The characters of identifiers. Versions of the language differ beyond ASCII only. -/
structure Alphabet where
  /-- Whether an identifier can start with the character. -/
  starts : Char → Bool
  /-- Whether the character can stand further behind. -/
  continues : Char → Bool
  starts_ascii : ∀ c : Char, c.toNat < 128 → starts c = (c.isAlpha || c == '$' || c == '_')
  continues_ascii : ∀ c : Char, c.toNat < 128 →
    continues c = (c.isAlphanum || c == '$' || c == '_')

namespace Alphabet

/-- The alphabet without letters beyond ASCII. -/
def ascii : Alphabet where
  starts c := c.isAlpha || c == '$' || c == '_'
  continues c := c.isAlphanum || c == '$' || c == '_'
  starts_ascii _ _ := rfl
  continues_ascii _ _ := rfl

instance : Inhabited Alphabet := ⟨ascii⟩

variable (a : Alphabet)

/-- Whether a name is an identifier. -/
def isIdentifier (name : String) : Bool :=
  match name.toList with
  | [] => false
  | c :: cs => a.starts c && cs.all a.continues

/-- A key denotes a name. An identifier is its own key; any other name stands between quotes. -/
def IsKey (name : String) (key : List Char) : Prop :=
  if a.isIdentifier name then key = name.toList
  else ∃ quote, (quote = '\'' ∨ quote = '"') ∧ Denotes quote key name.toList

/-- A text begins with a key for a name and a colon, and with a question mark between them exactly
if the property is optional. -/
def IsSignature (name : String) (isOptional : Bool) (text : List Char) : Prop :=
  ∃ key rest, a.IsKey name key ∧ text = key ++ (if isOptional then ['?'] else []) ++ ':' :: rest

end Alphabet

/-! ### What is written for a property -/

/-- What is written behind the name of a property. -/
def behindName (p : PropertyType) : List Char :=
  (if p.isOptional then ['?'] else []) ++ ':' :: ' ' :: p.type.write

theorem writeProperty_eq (name : String) (p : PropertyType) :
    writeProperty name p = name.toList ++ behindName p := List.append_assoc ..

/-- Behind the name stands a mark: a question mark or a colon. -/
theorem exists_behindName (p : PropertyType) :
    ∃ mark rest, (mark = '?' ∨ mark = ':') ∧ behindName p = mark :: rest := by
  rw [behindName]
  cases p.isOptional with
  | true => exact ⟨'?', _, .inl rfl, rfl⟩
  | false => exact ⟨':', _, .inr rfl, rfl⟩

/-- **Which properties of one type are written as one text.** Apart from equal ones these are a
property that has to be there, whose name ends in a question mark, and the optional property whose
name is without it. -/
theorem writeProperty_eq_iff {name name' : String} {p p' : PropertyType} (htype : p'.type = p.type) :
    writeProperty name' p' = writeProperty name p ↔
      (name' = name ∧ p'.isOptional = p.isOptional) ∨
      (name' = name ++ "?" ∧ p'.isOptional = false ∧ p.isOptional = true) ∨
      (name = name' ++ "?" ∧ p.isOptional = false ∧ p'.isOptional = true) := by
  have hsame : writeProperty name' p' = writeProperty name p ↔
      name'.toList ++ (if p'.isOptional then ['?'] else []) =
        name.toList ++ (if p.isOptional then ['?'] else []) := by
    rw [writeProperty, writeProperty, htype]
    exact List.append_left_inj _
  have hquestion : ∀ n n' : String, n'.toList = n.toList ++ ['?'] ↔ n' = n ++ "?" := by
    intro n n'
    rw [← String.toList_inj, String.toList_append]
    rfl
  rw [hsame]
  cases hopt : p.isOptional <;> cases hopt' : p'.isOptional <;>
    simp [hquestion, String.toList_inj, eq_comm]

/-! ### Declared properties -/

namespace Alphabet

variable {a : Alphabet} {name name' : String} {p p' : PropertyType}

/-- A character of ASCII that is no letter, digit, dollar sign or underscore is in no identifier. -/
theorem not_mem_of_isIdentifier {c : Char} (h : a.isIdentifier name = true) (hascii : c.toNat < 128)
    (hother : (c.isAlphanum || c == '$' || c == '_') = false) : c ∉ name.toList := by
  have halpha : (c.isAlpha || c == '$' || c == '_') = false := by
    simp only [Char.isAlphanum, Bool.or_eq_false_iff] at hother ⊢
    exact ⟨⟨hother.1.1.1, hother.1.2⟩, hother.2⟩
  rw [isIdentifier] at h
  split at h
  · cases h
  · rename_i d cs hname
    rw [Bool.and_eq_true, List.all_eq_true] at h
    rw [hname, List.mem_cons, not_or]
    constructor
    · rintro rfl
      rw [a.starts_ascii c hascii, halpha] at h
      cases h.1
    · intro hmem
      have hcontinues := h.2 c hmem
      rw [a.continues_ascii c hascii, hother] at hcontinues
      cases hcontinues

theorem isSignature_of_isIdentifier (h : a.isIdentifier name = true) (p : PropertyType) :
    a.IsSignature name p.isOptional (writeProperty name p) := by
  refine ⟨name.toList, ' ' :: p.type.write, ?_, by simp [writeProperty]⟩
  rw [IsKey, if_pos h]

theorem not_isSignature (h : a.isIdentifier name = false) (p : PropertyType) :
    ¬ a.IsSignature name p.isOptional (writeProperty name p) := by
  rintro ⟨key, rest, hkey, htext⟩
  rw [IsKey, if_neg (by simp [h])] at hkey
  obtain ⟨quote, hquote, hdenotes⟩ := hkey
  obtain ⟨mark, behind, hmark, hbehind⟩ := exists_behindName p
  rw [writeProperty_eq, hbehind, List.append_assoc] at htext
  have hself : escaped? mark = some mark := by rcases hmark with rfl | rfl <;> rfl
  have hslash : mark ≠ '\\' := by rcases hmark with rfl | rfl <;> decide
  have hne : mark ≠ quote := by
    rcases hmark with rfl | rfl <;> rcases hquote with rfl | rfl <;> decide
  exact hdenotes.ne_append_mark hself hslash hne htext

/-- Identifiers end where the mark behind them stands, so what is written for their properties
shows all there is to the properties. -/
theorem outline_eq_of_writeProperty_eq (h : a.isIdentifier name = true)
    (h' : a.isIdentifier name' = true) (heq : writeProperty name' p' = writeProperty name p) :
    PropertyOutline.of (name', p') = PropertyOutline.of (name, p) := by
  have hread : ∀ {n : String} (q : PropertyType), a.isIdentifier n = true →
      FileReader.property? (Interface.propertyLine (n, q)) = some (.of (n, q)) := by
    intro n q hn
    exact FileReader.property?_propertyLine (not_mem_of_isIdentifier hn (by decide) rfl)
      (not_mem_of_isIdentifier hn (by decide) rfl)
  have hline : Interface.propertyLine (name', p') = Interface.propertyLine (name, p) := by
    rw [Interface.propertyLine, Interface.propertyLine, heq]
  have hsome := hread p' h'
  rw [hline, hread p h, Option.some_inj] at hsome
  exact hsome.symm

/-- **Which properties are declared.** What is written for a property is the beginning of a
declaration of that property exactly if its name is an identifier. Among identifiers the text shows
the name, whether the property is optional, and its type. Properties of one type and any names have
one text if they are the same, and besides only if one of them is optional and the name of the other
one, which has to be there, has a question mark more. -/
theorem isSignature_writeProperty_iff (a : Alphabet) (name : String) (p : PropertyType) :
    (a.IsSignature name p.isOptional (writeProperty name p) ↔ a.isIdentifier name = true) ∧
    ∀ (name' : String) (p' : PropertyType),
      (a.isIdentifier name = true → a.isIdentifier name' = true →
        writeProperty name' p' = writeProperty name p →
        name' = name ∧ p'.isOptional = p.isOptional ∧ p'.type.text = p.type.text) ∧
      (p'.type = p.type → (writeProperty name' p' = writeProperty name p ↔
        (name' = name ∧ p'.isOptional = p.isOptional) ∨
        (name' = name ++ "?" ∧ p'.isOptional = false ∧ p.isOptional = true) ∨
        (name = name' ++ "?" ∧ p.isOptional = false ∧ p'.isOptional = true))) := by
  refine ⟨⟨fun h => ?_, fun h => isSignature_of_isIdentifier h p⟩, fun name' p' => ⟨?_, ?_⟩⟩
  · by_contra hname
    exact not_isSignature (by simpa using hname) p h
  · intro h h' heq
    simpa [PropertyOutline.of] using outline_eq_of_writeProperty_eq h h' heq
  · exact writeProperty_eq_iff

/-- A class with a property whose name needs quotes, and with one whose name is that of another
property and a question mark. -/
def hyphenatedShape : Shape :=
  { Shape.empty with
    casts := .ofList [("nick", .primitive .string)]
    rules := .ofList [("first-name", .parse "required|string"), ("nick?", .parse "required")] }

/-- **A property that is not declared, and two that nothing tells apart.** In the interface of the
class the one name is no identifier, and the lines of the other two properties are the same. -/
theorem not_isSignature_hyphenated :
    (Registry.empty.interface "App\\User" hyphenatedShape).properties =
      [("nick", ⟨.string, true⟩), ("first-name", ⟨.string, false⟩), ("nick?", ⟨.string, false⟩)] ∧
    String.ofList (writeProperty "first-name" ⟨.string, false⟩) = "first-name: string" ∧
    (∀ a : Alphabet, ¬ a.IsSignature "first-name" false
      (writeProperty "first-name" ⟨.string, false⟩)) ∧
    writeProperty "nick?" ⟨.string, false⟩ = writeProperty "nick" ⟨.string, true⟩ := by
  refine ⟨by decide +kernel, by decide +kernel, fun a => ?_, by decide +kernel⟩
  refine not_isSignature (p := ⟨.string, false⟩) ?_
  by_contra hname
  have hname : a.isIdentifier "first-name" = true := by simpa using hname
  exact not_mem_of_isIdentifier (c := '-') hname (by decide) rfl (by decide +kernel)

end Alphabet

end DtoInterfaces
