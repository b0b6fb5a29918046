import DtoInterfaces.SourceScan

/-!
# Declarations as patterns

The two kinds of declarations are patterns of a simple form: a word, a run of blanks, a captured
run, and perhaps one more character. A pattern is matched from the left. At the first place where
it matches at all, a run takes as many characters as it can, and gives back one after the other
only as long as the rest of the pattern does not match.

Looking at a place without patterns and without giving anything back finds the same. For a class
this is so because no blank can stand in a word, so that nothing is gained by giving back a blank.
For a namespace it is not: behind `namespace` the text up to the semicolon may consist of blanks
only, and then the last of them is given back and captured. Which blanks are captured makes no
difference behind the trimming of the name.

## Main definitions

* `Pattern`, `ways` — patterns, and every way to match one at the front of a text, the preferred one
  first.
* `captured?` — what a pattern captures in a text.
* `namespacePattern`, `classPattern` — the two patterns.

## Main results

* `firstHit_eq_some_iff`, `firstHit_eq_none_iff` — the first find is the leftmost one.
* `map_trim_captured?_namespacePattern`, `captured?_classPattern` — looking without patterns finds
  what the patterns capture.
-/

namespace DtoInterfaces

/-! ### Blanks and words -/

namespace Text

theorem exists_of_isBlank {c : Char} (h : isBlank c = true) :
    ∃ n ∈ blankTable.flatMap fun range => List.range' range.1 (range.2 + 1 - range.1),
      c = Char.ofNat n := by
  obtain ⟨range, hrange, hlow, hhigh⟩ := CodeTable.contains_iff.1 h
  refine ⟨c.toNat, List.mem_flatMap.2 ⟨range, hrange, ?_⟩, (Char.ofNat_toNat c).symm⟩
  rw [List.mem_range'_1]
  omega

/-- **No blank can stand in a word.** -/
theorem isWordChar_eq_false_of_isBlank {c : Char} (h : isBlank c = true) :
    isWordChar c = false := by
  have hall : (blankTable.flatMap fun range =>
      List.range' range.1 (range.2 + 1 - range.1)).all fun n => !isWordChar (Char.ofNat n) := by
    decide +kernel
  obtain ⟨n, hn, rfl⟩ := exists_of_isBlank h
  simpa using List.all_eq_true.1 hall n hn

theorem trim_cons_of_isBlank {c : Char} (h : isBlank c = true) (cs : List Char) :
    trim (c :: cs) = trim cs := by
  rw [trim, trim, trimStart, trimStart, List.dropWhile_cons_of_pos h]

theorem trim_eq_self_of_isWordChar {cs : List Char} (h : ∀ c ∈ cs, isWordChar c = true) :
    trim cs = cs := by
  have hblank : ∀ c ∈ cs, isBlank c = false := by
    intro c hc
    rw [Bool.eq_false_iff]
    intro hblank
    exact absurd (h c hc) (by simp [isWordChar_eq_false_of_isBlank hblank])
  exact trim_eq_self (fun c hc => hblank c (List.mem_of_mem_head? hc))
    fun c hc => hblank c (List.mem_of_mem_getLast? hc)

end Text

namespace SourceScan

/-! ### The first find -/

section FirstHit

variable {α β : Type} {find : List Char → Option α} {cs : List Char}

theorem firstHit_eq_none_iff : firstHit find cs = none ↔ ∀ i, find (cs.drop i) = none := by
  induction cs with
  | nil => simp [firstHit]
  | cons c cs ih =>
    rw [firstHit]
    constructor
    · intro h i
      split at h
      · cases h
      · cases i with
        | zero => assumption
        | succ i => exact ih.1 h i
    · intro h
      have hhere : find (c :: cs) = none := h 0
      rw [hhere]
      exact ih.2 fun i => h (i + 1)

/-- **The first find** is made at a place with no find to its left. -/
theorem firstHit_eq_some_iff {a : α} :
    firstHit find cs = some a ↔
      ∃ i, find (cs.drop i) = some a ∧ ∀ j < i, find (cs.drop j) = none := by
  induction cs with
  | nil =>
    simp only [firstHit, List.drop_nil]
    exact ⟨fun h => ⟨0, h, fun j hj => absurd hj (Nat.not_lt_zero j)⟩, fun ⟨_, h, _⟩ => h⟩
  | cons c cs ih =>
    rw [firstHit]
    cases hhere : find (c :: cs) with
    | some b =>
      constructor
      · rintro ⟨⟩
        exact ⟨0, hhere, fun j hj => absurd hj (Nat.not_lt_zero j)⟩
      · rintro ⟨i, hi, hleft⟩
        cases i with
        | zero => exact hhere.symm.trans hi
        | succ i => exact absurd (hhere.symm.trans (hleft 0 (Nat.succ_pos i))) (by simp)
    | none =>
      rw [ih]
      constructor
      · rintro ⟨i, hi, hleft⟩
        refine ⟨i + 1, hi, fun j hj => ?_⟩
        cases j with
        | zero => exact hhere
        | succ j => exact hleft j (Nat.lt_of_succ_lt_succ hj)
      · rintro ⟨i, hi, hleft⟩
        cases i with
        | zero => exact absurd (hhere.symm.trans hi) (by simp)
        | succ i => exact ⟨i, hi, fun j hj => hleft (j + 1) (Nat.succ_lt_succ hj)⟩

theorem map_firstHit (f : α → β) :
    (firstHit find cs).map f = firstHit (fun cs => (find cs).map f) cs := by
  induction cs with
  | nil => rfl
  | cons c cs ih =>
    rw [firstHit, firstHit]
    cases find (c :: cs) with
    | some a => rfl
    | none => exact ih

end FirstHit

/-! ### Patterns -/

/-- A part of a pattern. -/
inductive PatternPart where
  /-- One character. -/
  | char (c : Char)
  /-- One or more characters of a class, as many as can be had. -/
  | run (accepts : Char → Bool)
  /-- The same, and the characters are captured. -/
  | capture (accepts : Char → Bool)

/-- A pattern, part after part. -/
abbrev Pattern := List PatternPart

/-- Every run of a class at the front of a text, with what follows it; the longest run comes
first. -/
def runs (accepts : Char → Bool) : List Char → List (List Char × List Char)
  | [] => []
  | c :: cs =>
    if accepts c then (runs accepts cs).map (fun r => (c :: r.1, r.2)) ++ [([c], cs)] else []

/-- What is captured in each of the ways to match a pattern at the front of a text; the preferred way
comes first. -/
def ways : Pattern → List Char → List (List Char)
  | [], _ => [[]]
  | .char _ :: _, [] => []
  | .char c :: parts, d :: cs => if c = d then ways parts cs else []
  | .run accepts :: parts, cs => (runs accepts cs).flatMap fun r => ways parts r.2
  | .capture accepts :: parts, cs =>
    (runs accepts cs).flatMap fun r => (ways parts r.2).map (r.1 ++ ·)

/-- What a pattern captures at the front of a text. -/
def captureAt? (pattern : Pattern) (cs : List Char) : Option (List Char) := (ways pattern cs).head?

/-- What a pattern captures in a text, at the first place where it matches. -/
def captured? (pattern : Pattern) (cs : List Char) : Option (List Char) :=
  firstHit (captureAt? pattern) cs

section Capture

variable {accepts : Char → Bool} {parts : Pattern} {c : Char} {cs : List Char}

/-- A word in front has to be there. -/
theorem captureAt?_word (word : List Char) :
    captureAt? (word.map .char ++ parts) cs = (afterWord? word cs).bind (captureAt? parts) := by
  induction word generalizing cs with
  | nil => rfl
  | cons w word ih =>
    cases cs with
    | nil => rfl
    | cons c cs =>
      by_cases hsame : w = c
      · subst hsame
        have hafter : afterWord? (w :: word) (w :: cs) = afterWord? word cs := by
          simp [afterWord?, List.isPrefixOf]
        rw [hafter, ← ih, captureAt?, captureAt?, List.map_cons, List.cons_append, ways, if_pos rfl]
      · have hafter : afterWord? (w :: word) (c :: cs) = none := by
          simp [afterWord?, List.isPrefixOf, hsame]
        rw [hafter, captureAt?, List.map_cons, List.cons_append, ways, if_neg hsame]
        rfl

theorem captureAt?_run :
    captureAt? (.run accepts :: parts) cs =
      (runs accepts cs).findSome? fun r => captureAt? parts r.2 := by
  rw [captureAt?, ways, List.head?_flatMap]
  rfl

theorem captureAt?_capture :
    captureAt? (.capture accepts :: parts) cs =
      (runs accepts cs).findSome? fun r => (captureAt? parts r.2).map (r.1 ++ ·) := by
  simp only [captureAt?, ways, List.head?_flatMap, List.head?_map]

theorem findSome?_runs_cons {α : Type} (f : List Char × List Char → Option α)
    (h : accepts c = true) :
    (runs accepts (c :: cs)).findSome? f =
      ((runs accepts cs).findSome? fun r => f (c :: r.1, r.2)).or (f ([c], cs)) := by
  rw [runs, if_pos h, List.findSome?_append, List.findSome?_map]
  cases hlast : f ([c], cs) <;> simp [Function.comp_def, hlast]

/-- **Giving back.** A run goes on as long as that leads to a match, and ends otherwise. -/
theorem captureAt?_run_cons (h : accepts c = true) :
    captureAt? (.run accepts :: parts) (c :: cs) =
      (captureAt? (.run accepts :: parts) cs).or (captureAt? parts cs) := by
  rw [captureAt?_run, captureAt?_run, findSome?_runs_cons _ h]

theorem captureAt?_capture_cons (h : accepts c = true) :
    captureAt? (.capture accepts :: parts) (c :: cs) =
      ((captureAt? (.capture accepts :: parts) cs).or (captureAt? parts cs)).map (c :: ·) := by
  rw [captureAt?_capture, captureAt?_capture, findSome?_runs_cons _ h, Option.map_or,
    List.map_findSome?]
  simp [Function.comp_def]

theorem captureAt?_run_of_head? (h : ∀ c ∈ cs.head?, accepts c = false) :
    captureAt? (.run accepts :: parts) cs = none := by
  cases cs with
  | nil => rfl
  | cons c cs => simp [captureAt?_run, runs, h c rfl]

theorem captureAt?_capture_of_head? (h : ∀ c ∈ cs.head?, accepts c = false) :
    captureAt? (.capture accepts :: parts) cs = none := by
  cases cs with
  | nil => rfl
  | cons c cs => simp [captureAt?_capture, runs, h c rfl]

/-- A captured run at the end of a pattern takes all that it can. -/
theorem captureAt?_capture_last :
    captureAt? [.capture accepts] cs =
      if cs.takeWhile accepts = [] then none else some (cs.takeWhile accepts) := by
  induction cs with
  | nil => rfl
  | cons c cs ih =>
    cases h : accepts c with
    | false => rw [captureAt?_capture_of_head? (by simpa using h)]; simp [h]
    | true =>
      have hend : captureAt? [] cs = some [] := rfl
      rw [captureAt?_capture_cons h, ih, hend, List.takeWhile_cons_of_pos h]
      by_cases hnil : cs.takeWhile accepts = [] <;> simp [hnil]

/-- A captured run in front of a character that it does not accept ends at that character. -/
theorem captureAt?_capture_char {d : Char} :
    captureAt? [.capture (· ≠ d), .char d] cs =
      if cs.takeWhile (· ≠ d) = [] ∨ d ∉ cs then none else some (cs.takeWhile (· ≠ d)) := by
  induction cs with
  | nil => rfl
  | cons c cs ih =>
    by_cases hsame : c = d
    · rw [captureAt?_capture_of_head? (by simpa using hsame)]
      simp [hsame]
    · rw [captureAt?_capture_cons (by simpa using hsame), ih,
        List.takeWhile_cons_of_pos (by simpa using hsame)]
      -- the run goes on, or ends here in front of the character
      cases cs with
      | nil => simp [captureAt?, ways, Ne.symm hsame]
      | cons e cs =>
        by_cases hend : e = d
        · simp [captureAt?, ways, hend]
        · by_cases hlater : d ∈ cs <;>
            simp [captureAt?, ways, hend, Ne.symm hend, Ne.symm hsame, hlater]

/-- Nothing is gained by giving back if what follows a run cannot start inside it. -/
theorem captureAt?_run_of_separated
    (h : ∀ c cs, accepts c = true → captureAt? parts (c :: cs) = none) :
    captureAt? (.run accepts :: parts) cs =
      if cs.head?.any accepts then captureAt? parts (cs.dropWhile accepts) else none := by
  induction cs with
  | nil => rfl
  | cons c cs ih =>
    cases hc : accepts c with
    | false => rw [captureAt?_run_of_head? (by simpa using hc)]; simp [hc]
    | true =>
      rw [captureAt?_run_cons hc, ih, List.dropWhile_cons_of_pos hc]
      cases cs with
      | nil => simp [hc]
      | cons d cs => cases hd : accepts d <;> simp [hc, hd, h]

end Capture

/-! ### The two patterns -/

/-- How a namespace is declared. -/
def namespacePattern : Pattern :=
  "namespace".toList.map .char ++ [.run Text.isBlank, .capture (· ≠ ';'), .char ';']

/-- How a class is declared. -/
def classPattern : Pattern :=
  "class".toList.map .char ++ [.run Text.isBlank, .capture Text.isWordChar]

theorem classAt?_eq (cs : List Char) :
    classAt? cs = (afterWord? "class".toList cs).bind fun rest =>
      let name := (rest.dropWhile Text.isBlank).takeWhile Text.isWordChar
      if rest.head?.any Text.isBlank then (if name = [] then none else some name) else none := by
  rw [classAt?]
  cases afterWord? "class".toList cs with
  | none => rfl
  | some rest =>
    cases rest with
    | nil => rfl
    | cons c rest =>
      simp only [Option.bind_some, List.head?_cons, Option.any_some]
      cases ((c :: rest).dropWhile Text.isBlank).takeWhile Text.isWordChar with
      | nil => simp
      | cons d name => simp

/-- At a place where a class is looked for, the pattern captures what is found. -/
theorem captureAt?_classPattern (cs : List Char) : captureAt? classPattern cs = classAt? cs := by
  have hpattern : captureAt? classPattern cs = (afterWord? "class".toList cs).bind
      (captureAt? [.run Text.isBlank, .capture Text.isWordChar]) := captureAt?_word _
  have hapart : ∀ c cs, Text.isBlank c = true →
      captureAt? [.capture Text.isWordChar] (c :: cs) = none := fun c cs hc =>
    captureAt?_capture_of_head? (by simpa using Text.isWordChar_eq_false_of_isBlank hc)
  rw [hpattern, classAt?_eq]
  cases afterWord? "class".toList cs with
  | none => rfl
  | some rest =>
    rw [Option.bind_some, captureAt?_run_of_separated hapart, captureAt?_capture_last]
    rfl

/-- Whether a namespace is declared by what follows the word `namespace`: a blank, at least one more
character, and a semicolon behind them. -/
def opensNamespace (cs : List Char) : Bool :=
  cs.head?.any Text.isBlank && decide (2 ≤ (cs.takeWhile (· ≠ ';')).length) && decide (';' ∈ cs)

theorem namespaceAt?_eq (cs : List Char) :
    namespaceAt? cs = (afterWord? "namespace".toList cs).bind fun rest =>
      if opensNamespace rest then some (rest.takeWhile (· ≠ ';')) else none := by
  rw [namespaceAt?]
  cases afterWord? "namespace".toList cs with
  | none => rfl
  | some rest =>
    cases rest with
    | nil => rfl
    | cons c rest =>
      by_cases hend : c = ';'
      · simp [opensNamespace, hend]
      · have hstart : (c :: rest).takeWhile (· ≠ ';') = c :: rest.takeWhile (· ≠ ';') :=
          List.takeWhile_cons_of_pos (by simpa using hend)
        simp only [Option.bind_some, opensNamespace, hstart]
        cases rest.takeWhile (· ≠ ';') with
        | nil => simp
        | cons d name => simp

/-- **Which blanks are captured** makes no difference behind the trimming. By induction on the text: a
blank in front is given back only if nothing but blanks follows it up to the semicolon. -/
theorem map_trim_captureAt?_blanks (cs : List Char) :
    (captureAt? [.run Text.isBlank, .capture (· ≠ ';'), .char ';'] cs).map Text.trim =
      if opensNamespace cs then some (Text.trim (cs.takeWhile (· ≠ ';'))) else none := by
  induction cs with
  | nil => rfl
  | cons c cs ih =>
    cases hc : Text.isBlank c with
    | false => rw [captureAt?_run_of_head? (by simpa using hc)]; simp [opensNamespace, hc]
    | true =>
      have hne : c ≠ ';' := by rintro rfl; exact absurd hc (by decide)
      have hstart : (c :: cs).takeWhile (· ≠ ';') = c :: cs.takeWhile (· ≠ ';') :=
        List.takeWhile_cons_of_pos (by simpa using hne)
      have hopens : opensNamespace (c :: cs) =
          !(decide (cs.takeWhile (· ≠ ';') = [] ∨ ';' ∉ cs)) := by
        rw [opensNamespace, hstart]
        cases cs.takeWhile (· ≠ ';') <;> simp [hc, Ne.symm hne]
      rw [captureAt?_run_cons hc, Option.map_or, ih, captureAt?_capture_char, hopens, hstart,
        Text.trim_cons_of_isBlank hc]
      by_cases hno : cs.takeWhile (· ≠ ';') = [] ∨ ';' ∉ cs
      · have hclosed : opensNamespace cs = false := by
          rw [opensNamespace]
          rcases hno with hno | hno
          · rw [hno]
            simp
          · simp [hno]
        rw [hclosed, if_pos hno, decide_eq_true hno]
        rfl
      · rw [if_neg hno, decide_eq_false hno]
        cases opensNamespace cs <;> rfl

theorem map_trim_captureAt?_namespacePattern (cs : List Char) :
    (captureAt? namespacePattern cs).map Text.trim = (namespaceAt? cs).map Text.trim := by
  have hpattern : captureAt? namespacePattern cs = (afterWord? "namespace".toList cs).bind
      (captureAt? [.run Text.isBlank, .capture (· ≠ ';'), .char ';']) := captureAt?_word _
  rw [hpattern, namespaceAt?_eq]
  cases afterWord? "namespace".toList cs with
  | none => rfl
  | some rest =>
    rw [Option.bind_some, Option.bind_some, map_trim_captureAt?_blanks]
    cases opensNamespace rest <;> rfl

/-- **Looking for a namespace** finds what the pattern captures, up to blanks at its ends. -/
theorem map_trim_captured?_namespacePattern (cs : List Char) :
    (captured? namespacePattern cs).map Text.trim = (firstHit namespaceAt? cs).map Text.trim := by
  simp only [captured?, map_firstHit, map_trim_captureAt?_namespacePattern]

/-- **Looking for a class** finds what the pattern captures. -/
theorem captured?_classPattern (cs : List Char) :
    captured? classPattern cs = firstHit classAt? cs :=
  congrArg (firstHit · cs) (funext captureAt?_classPattern)

-- the blank in front of the semicolon is given back
example : captured? namespacePattern "namespace  ;".toList = some [' '] := by
  decide +kernel

end SourceScan

end DtoInterfaces
