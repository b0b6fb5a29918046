import DtoInterfaces.Proofs.SourceScan.Pattern
import Mathlib.Data.List.Basic
import Mathlib.Data.List.TakeWhile
import Mathlib.Order.Bounds.Defs

/-!
# The class that a text declares

What a scan finds can be said by places in the text alone. A namespace is declared at a place where
the word `namespace` stands, a blank follows it, and there are at least two characters up to the
next semicolon. A class is declared at a place where the word `class` stands, blanks follow it, and
a word follows the blanks. The scan takes the leftmost place of each kind, whichever comes first,
and puts the name of the class behind the normal form of the trimmed name of the namespace.

The blank behind `namespace` belongs to the characters up to the semicolon, so a declared namespace
may have an empty name: then it is declared by two blanks, or more of them, in front of a semicolon.

## Main definitions

* `DeclaresNamespace`, `DeclaresClass` — what is declared at a place.
* `matchedClass?` — the class that the two patterns find.

## Main results

* `declaresNamespace_iff`, `declaresClass_iff` — the scan looks for these places.
* `declaredClass?_leftmost` — what a scan finds.
-/

namespace DtoInterfaces

namespace SourceScan

/-! ### Places -/

/-- At place `i` a namespace is declared: the word `namespace` stands there, and the characters
between it and the next semicolon are `name`, two or more with a blank in front. -/
def DeclaresNamespace (cs : List Char) (i : Nat) (name : List Char) : Prop :=
  ∃ after, cs.drop i = "namespace".toList ++ (name ++ ';' :: after) ∧
    ';' ∉ name ∧ 2 ≤ name.length ∧ name.head?.any Text.isBlank = true

/-- At place `i` a class is declared: the word `class` stands there, blanks follow it, and `name` is
the whole word that follows the blanks. -/
def DeclaresClass (cs : List Char) (i : Nat) (name : List Char) : Prop :=
  ∃ blanks after, cs.drop i = "class".toList ++ (blanks ++ (name ++ after)) ∧
    (blanks ≠ [] ∧ ∀ c ∈ blanks, Text.isBlank c = true) ∧
    (name ≠ [] ∧ ∀ c ∈ name, Text.isWordChar c = true) ∧
    ∀ c ∈ after.head?, Text.isWordChar c = false

/-- A word stands at the front of a text exactly if the text goes on behind it. -/
theorem afterWord?_eq_some_iff {word cs rest : List Char} :
    afterWord? word cs = some rest ↔ cs = word ++ rest := by
  rw [afterWord?]
  constructor
  · intro h
    split at h
    · rename_i hprefix
      obtain ⟨after, rfl⟩ := List.isPrefixOf_iff_prefix.1 hprefix
      rw [List.drop_left] at h
      rw [Option.some.inj h]
    · cases h
  · rintro rfl
    rw [if_pos (List.isPrefixOf_iff_prefix.2 (List.prefix_append word rest)), List.drop_left]

section Runs

variable {accepts : Char → Bool} {front after : List Char}
  (hfront : ∀ c ∈ front, accepts c = true) (hafter : ∀ c ∈ after.head?, accepts c = false)

include hfront hafter

theorem takeWhile_append_of_head? : (front ++ after).takeWhile accepts = front := by
  rw [List.takeWhile_append_of_pos hfront]
  cases after with
  | nil => simp
  | cons c after => rw [List.takeWhile_cons_of_neg (by simp [hafter c rfl]), List.append_nil]

theorem dropWhile_append_of_head? : (front ++ after).dropWhile accepts = after := by
  rw [List.dropWhile_append_of_pos hfront, Text.dropWhile_eq_self_of_head? hafter]

end Runs

/-- A text goes on with a character behind everything that comes before its first occurrence. -/
theorem exists_eq_takeWhile_append {d : Char} {cs : List Char} (h : d ∈ cs) :
    ∃ after, cs = cs.takeWhile (· ≠ d) ++ d :: after := by
  induction cs with
  | nil => cases h
  | cons c cs ih =>
    by_cases hsame : c = d
    · exact ⟨cs, by simp [hsame]⟩
    · obtain ⟨after, hafter⟩ := ih ((List.mem_cons.1 h).resolve_left (Ne.symm hsame))
      refine ⟨after, ?_⟩
      rw [List.takeWhile_cons_of_pos (by simpa using hsame), List.cons_append, ← hafter]

/-- What the text behind `namespace` looks like if it declares one. -/
theorem opensNamespace_iff {rest name : List Char} :
    (if opensNamespace rest then some (rest.takeWhile (· ≠ ';')) else none) = some name ↔
      ∃ after, rest = name ++ ';' :: after ∧
        ';' ∉ name ∧ 2 ≤ name.length ∧ name.head?.any Text.isBlank = true := by
  rw [Option.ite_none_right_eq_some, opensNamespace]
  simp only [Bool.and_eq_true, decide_eq_true_eq, Option.some.injEq]
  constructor
  · rintro ⟨⟨⟨hblank, hlength⟩, hsemicolon⟩, rfl⟩
    obtain ⟨after, hafter⟩ := exists_eq_takeWhile_append hsemicolon
    have hnone : ';' ∉ rest.takeWhile (· ≠ ';') := fun hmem => by
      simpa using List.mem_takeWhile_imp hmem
    have hsome : rest.takeWhile (· ≠ ';') ≠ [] := List.ne_nil_of_length_pos (by omega)
    have hhead : rest.head? = (rest.takeWhile (· ≠ ';')).head? :=
      (congrArg List.head? hafter).trans (List.head?_append_of_ne_nil _ hsome)
    exact ⟨after, hafter, hnone, hlength, hhead ▸ hblank⟩
  · rintro ⟨after, rfl, hsemicolon, hlength, hblank⟩
    have hname : (name ++ ';' :: after).takeWhile (· ≠ ';') = name := by
      refine takeWhile_append_of_head? (fun c hc => ?_) (by simp)
      have hne : c ≠ ';' := fun hsame => hsemicolon (hsame ▸ hc)
      simpa using hne
    have hsome : name ≠ [] := List.ne_nil_of_length_pos (by omega)
    rw [hname, List.head?_append_of_ne_nil _ hsome]
    exact ⟨⟨⟨hblank, hlength⟩, by simp⟩, rfl⟩

/-- What the text behind `class` looks like if it declares one. -/
theorem opensClass_iff {rest name : List Char} :
    (let word := (rest.dropWhile Text.isBlank).takeWhile Text.isWordChar
      if rest.head?.any Text.isBlank then (if word = [] then none else some word) else none) =
        some name ↔
      ∃ blanks after, rest = blanks ++ (name ++ after) ∧
        (blanks ≠ [] ∧ ∀ c ∈ blanks, Text.isBlank c = true) ∧
        (name ≠ [] ∧ ∀ c ∈ name, Text.isWordChar c = true) ∧
        ∀ c ∈ after.head?, Text.isWordChar c = false := by
  simp only [Option.ite_none_right_eq_some, Option.ite_none_left_eq_some, Option.some.injEq]
  constructor
  · rintro ⟨hblank, hname, rfl⟩
    refine ⟨rest.takeWhile Text.isBlank, (rest.dropWhile Text.isBlank).dropWhile Text.isWordChar,
      by simp, ⟨?_, fun c => List.mem_takeWhile_imp⟩, ⟨hname, fun c => List.mem_takeWhile_imp⟩,
      fun c => Text.head?_dropWhile_eq_false⟩
    cases rest with
    | nil => cases hblank
    | cons c rest => simp [List.takeWhile_cons_of_pos (show Text.isBlank c = true from hblank)]
  · rintro ⟨blanks, after, rfl, ⟨hsome, hblanks⟩, ⟨hname, hword⟩, hafter⟩
    have hstart : ∀ c ∈ (name ++ after).head?, Text.isBlank c = false := by
      intro c hc
      rw [List.head?_append_of_ne_nil _ hname] at hc
      rw [Bool.eq_false_iff]
      intro hblank
      have hmem := hword c (List.mem_of_mem_head? hc)
      rw [Text.isWordChar_eq_false_of_isBlank hblank] at hmem
      cases hmem
    rw [dropWhile_append_of_head? hblanks hstart, takeWhile_append_of_head? hword hafter]
    refine ⟨?_, hname, rfl⟩
    cases blanks with
    | nil => exact absurd rfl hsome
    | cons c blanks => exact hblanks c List.mem_cons_self

/-- **Where a scan finds a namespace.** -/
theorem declaresNamespace_iff {cs name : List Char} {i : Nat} :
    DeclaresNamespace cs i name ↔ namespaceAt? (cs.drop i) = some name := by
  rw [namespaceAt?_eq, Option.bind_eq_some_iff]
  simp only [afterWord?_eq_some_iff, opensNamespace_iff]
  constructor
  · rintro ⟨after, htext, hname⟩
    exact ⟨_, htext, after, rfl, hname⟩
  · rintro ⟨rest, htext, after, rfl, hname⟩
    exact ⟨after, htext, hname⟩

/-- **Where a scan finds a class.** -/
theorem declaresClass_iff {cs name : List Char} {i : Nat} :
    DeclaresClass cs i name ↔ classAt? (cs.drop i) = some name := by
  rw [classAt?_eq, Option.bind_eq_some_iff]
  simp only [afterWord?_eq_some_iff, opensClass_iff]
  constructor
  · rintro ⟨blanks, after, htext, hname⟩
    exact ⟨_, htext, blanks, after, rfl, hname⟩
  · rintro ⟨rest, htext, blanks, after, rfl, hname⟩
    exact ⟨blanks, after, htext, hname⟩

/-! ### The leftmost places -/

/-- The first find is made at the least place where something is found. -/
theorem firstHit_eq_some_iff_isLeast {α : Type} {find : List Char → Option α} {cs : List Char}
    {a : α} :
    firstHit find cs = some a ↔
      ∃ i, IsLeast {j | ∃ b, find (cs.drop j) = some b} i ∧ find (cs.drop i) = some a := by
  rw [firstHit_eq_some_iff]
  constructor
  · rintro ⟨i, hi, hleft⟩
    refine ⟨i, ⟨⟨a, hi⟩, fun j hj => ?_⟩, hi⟩
    obtain ⟨b, hb⟩ := hj
    by_contra hlt
    rw [hleft j (Nat.lt_of_not_le hlt)] at hb
    cases hb
  · rintro ⟨i, ⟨-, hleast⟩, hi⟩
    refine ⟨i, hi, fun j hj => ?_⟩
    by_contra hfound
    obtain ⟨b, hb⟩ := Option.ne_none_iff_exists'.1 hfound
    exact Nat.not_le_of_lt hj (hleast ⟨b, hb⟩)

theorem firstHit_namespaceAt?_eq_some_iff {cs name : List Char} :
    firstHit namespaceAt? cs = some name ↔
      ∃ i, IsLeast {j | ∃ t, DeclaresNamespace cs j t} i ∧ DeclaresNamespace cs i name := by
  simp only [declaresNamespace_iff, firstHit_eq_some_iff_isLeast]

theorem firstHit_classAt?_eq_some_iff {cs name : List Char} :
    firstHit classAt? cs = some name ↔
      ∃ i, IsLeast {j | ∃ t, DeclaresClass cs j t} i ∧ DeclaresClass cs i name := by
  simp only [declaresClass_iff, firstHit_eq_some_iff_isLeast]

theorem firstHit_namespaceAt?_eq_none_iff {cs : List Char} :
    firstHit namespaceAt? cs = none ↔ ∀ i name, ¬ DeclaresNamespace cs i name := by
  rw [firstHit_eq_none_iff]
  simp only [declaresNamespace_iff, Option.eq_none_iff_forall_ne_some, ne_eq]

theorem firstHit_classAt?_eq_none_iff {cs : List Char} :
    firstHit classAt? cs = none ↔ ∀ i name, ¬ DeclaresClass cs i name := by
  rw [firstHit_eq_none_iff]
  simp only [declaresClass_iff, Option.eq_none_iff_forall_ne_some, ne_eq]

/-! ### What a scan finds -/

theorem ofList_qualified (space name : List Char) :
    String.ofList (ClassName.normalChars space ++ ClassName.separator :: name) =
      ClassName.normalize (String.ofList space) ++ "\\" ++ String.ofList name := by
  rw [← String.toList_inj]
  simp [ClassName.separator]

/-- A class is found if both a namespace and a class are. -/
theorem declaredClass?_eq (source : String) :
    declaredClass? source =
      match (firstHit namespaceAt? source.toList).map Text.trim,
        firstHit classAt? source.toList with
      | some space, some name =>
        some (ClassName.normalize (String.ofList space) ++ "\\" ++ String.ofList name)
      | _, _ => none := by
  rw [declaredClass?, declaredClassChars?]
  cases firstHit namespaceAt? source.toList with
  | none => rfl
  | some space =>
    cases firstHit classAt? source.toList with
    | none => rfl
    | some name => exact congrArg some (ofList_qualified (Text.trim space) name)

/-- The class that the two patterns find in a text. -/
def matchedClass? (source : String) : Option String :=
  match captured? namespacePattern source.toList, captured? classPattern source.toList with
  | some space, some name =>
    some (ClassName.normalize (String.ofList (Text.trim space)) ++ "\\" ++
      String.ofList (Text.trim name))
  | _, _ => none

theorem trim_eq_self_of_firstHit {cs name : List Char} (h : firstHit classAt? cs = some name) :
    Text.trim name = name := by
  obtain ⟨i, -, blanks, after, -, -, ⟨-, hword⟩, -⟩ := firstHit_classAt?_eq_some_iff.1 h
  exact Text.trim_eq_self_of_isWordChar hword

/-- A scan finds what the patterns find. -/
theorem declaredClass?_eq_matchedClass? (source : String) :
    declaredClass? source = matchedClass? source := by
  rw [declaredClass?_eq, matchedClass?, ← map_trim_captured?_namespacePattern,
    captured?_classPattern]
  cases captured? namespacePattern source.toList with
  | none => rfl
  | some space =>
    cases hname : firstHit classAt? source.toList with
    | none => rfl
    | some name => simp only [Option.map_some, trim_eq_self_of_firstHit hname]

/-- **What a scan finds.** In every text, looking without patterns finds what the two patterns find.
Nothing is found exactly if no place declares a namespace or no place declares a class. Otherwise the
leftmost place of each kind is taken, each on its own: the class has the name that is declared at the
one, in the namespace that is declared at the other. -/
theorem declaredClass?_leftmost (source : String) :
    declaredClass? source = matchedClass? source ∧
    (declaredClass? source = none ↔
      (∀ i name, ¬ DeclaresNamespace source.toList i name) ∨
        ∀ i name, ¬ DeclaresClass source.toList i name) ∧
    ∀ found, declaredClass? source = some found ↔
      ∃ i space j name,
        IsLeast {i | ∃ t, DeclaresNamespace source.toList i t} i ∧
          DeclaresNamespace source.toList i space ∧
        IsLeast {j | ∃ t, DeclaresClass source.toList j t} j ∧
          DeclaresClass source.toList j name ∧
        found = ClassName.normalize (String.ofList (Text.trim space)) ++ "\\" ++
          String.ofList name := by
  refine ⟨declaredClass?_eq_matchedClass? source, ?_, fun found => ?_⟩
  · rw [← firstHit_namespaceAt?_eq_none_iff, ← firstHit_classAt?_eq_none_iff, declaredClass?_eq]
    cases firstHit namespaceAt? source.toList <;> cases firstHit classAt? source.toList <;> simp
  · rw [declaredClass?_eq]
    constructor
    · intro h
      split at h
      · rename_i space name hspace hname
        obtain ⟨namespaceText, hfirst, rfl⟩ := Option.map_eq_some_iff.1 hspace
        obtain ⟨i, hi, hdeclares⟩ := firstHit_namespaceAt?_eq_some_iff.1 hfirst
        obtain ⟨j, hj, hdeclares'⟩ := firstHit_classAt?_eq_some_iff.1 hname
        exact ⟨i, namespaceText, j, name, hi, hdeclares, hj, hdeclares', (Option.some.inj h).symm⟩
      · cases h
    · rintro ⟨i, space, j, name, hi, hdeclares, hj, hdeclares', rfl⟩
      rw [firstHit_namespaceAt?_eq_some_iff.2 ⟨i, hi, hdeclares⟩,
        firstHit_classAt?_eq_some_iff.2 ⟨j, hj, hdeclares'⟩]
      rfl

-- the first class is in the comment, and the first semicolon ends a namespace without a name
example : declaredClass? "// a class of notes\nnamespace  ;\nclass Note" = some "\\of" := by
  decide +kernel

end SourceScan

end DtoInterfaces
