import DtoInterfaces.Proofs.Rules.Tokens
import DtoInterfaces.Typing

/-!
# What rules tell about a property

Rules are never carried out; the type of a property and the question mark behind its name depend on
which words the rules mention. Since a word without a bar is mentioned by a single token, nothing
depends on the order of the tokens or on how often one of them is there. More tokens mention more
words, and the word that makes a property required stays when tokens are added; a type may change.

## Main definitions

* `Shape.withRules` — a shape in which a property has given rules.

## Main results

* `Rules.mentions_mono`, `Rules.mentions_congr` — more tokens mention more words, the same tokens
  the same words.
* `Rules.signals_tokenwise` — words, types and question marks by the tokens.
-/

namespace DtoInterfaces

/-- The shape in which a property has the given rules and everything else is as before. -/
def Shape.withRules (s : Shape) (property : String) (rules : Rules) : Shape :=
  { s with rules := s.rules.insert property rules }

theorem Shape.isOptional_withRules (s : Shape) (property : String) (rules : Rules) :
    (s.withRules property rules).isOptional property =
      (s.defaults.contains property || !rules.mentions "required") := by
  rw [isOptional, withRules, PropertyMap.get?_insert, if_pos rfl, Option.all_some]

namespace Rules

variable {rules rules' : Rules} {word : String}

/-- More tokens mention more words. -/
theorem mentions_mono (hbar : bar ∉ word.toList) (hne : word.toList ≠ [])
    (h : rules.tokens ⊆ rules'.tokens) (hword : rules.mentions word = true) :
    rules'.mentions word = true := by
  obtain ⟨token, htoken, hinfix⟩ := (mentions_iff hbar hne rules).1 hword
  exact (mentions_iff hbar hne rules').2 ⟨token, h htoken, hinfix⟩

/-- The same tokens mention the same words, in any order and number. -/
theorem mentions_congr (hbar : bar ∉ word.toList) (hne : word.toList ≠ [])
    (h : ∀ token, token ∈ rules'.tokens ↔ token ∈ rules.tokens) :
    rules'.mentions word = rules.mentions word := by
  rw [Bool.eq_iff_iff]
  exact ⟨mentions_mono hbar hne fun token => (h token).1,
    mentions_mono hbar hne fun token => (h token).2⟩

/-- The same tokens hint at the same type. -/
theorem type_congr (h : ∀ token, token ∈ rules'.tokens ↔ token ∈ rules.tokens) :
    rules'.type = rules.type := by
  have hinteger : rules'.mentions "integer" = rules.mentions "integer" :=
    mentions_congr (by decide +kernel) (by decide +kernel) h
  have hnumeric : rules'.mentions "numeric" = rules.mentions "numeric" :=
    mentions_congr (by decide +kernel) (by decide +kernel) h
  have hboolean : rules'.mentions "boolean" = rules.mentions "boolean" :=
    mentions_congr (by decide +kernel) (by decide +kernel) h
  have harray : rules'.mentions "array" = rules.mentions "array" :=
    mentions_congr (by decide +kernel) (by decide +kernel) h
  rw [type, type, hinteger, hnumeric, hboolean, harray]

theorem isOptional_withRules_mono (h : rules.tokens ⊆ rules'.tokens) {s : Shape}
    {property : String} (hrequired : (s.withRules property rules).isOptional property = false) :
    (s.withRules property rules').isOptional property = false := by
  rw [Shape.isOptional_withRules, Bool.or_eq_false_iff, Bool.not_eq_false'] at hrequired ⊢
  exact ⟨hrequired.1, mentions_mono (by decide +kernel) (by decide +kernel) h hrequired.2⟩

theorem isOptional_withRules_congr (h : ∀ token, token ∈ rules'.tokens ↔ token ∈ rules.tokens)
    (s : Shape) (property : String) :
    (s.withRules property rules').isOptional property =
      (s.withRules property rules).isOptional property := by
  rw [Shape.isOptional_withRules, Shape.isOptional_withRules,
    mentions_congr (by decide +kernel) (by decide +kernel) h]

/-- **Words, types and question marks by the tokens.** Rules mention a word without a bar exactly if
one of their tokens has it, whatever else the tokens hold; no word is mentioned by two tokens
together. So the type that rules hint at and whether they make a property required stay the same
when tokens are put in another order or repeated, and a property that is required stays so when
tokens are added. The rules of a text mention a word without bars and blanks exactly if the text has
it. -/
theorem signals_tokenwise (rules : Rules) :
    (∀ word : String, word ≠ "" → bar ∉ word.toList →
      (rules.mentions word = true ↔ ∃ token ∈ rules.tokens, word.toList <:+: token.toList)) ∧
    (∀ rules' : Rules, (∀ token, token ∈ rules'.tokens ↔ token ∈ rules.tokens) →
      rules'.type = rules.type ∧
      ∀ (s : Shape) (property : String),
        (s.withRules property rules').isOptional property =
          (s.withRules property rules).isOptional property) ∧
    (∀ rules' : Rules, rules.tokens ⊆ rules'.tokens → ∀ (s : Shape) (property : String),
      (s.withRules property rules).isOptional property = false →
        (s.withRules property rules').isOptional property = false) ∧
    ∀ text word : String, word ≠ "" → bar ∉ word.toList →
      (∀ c ∈ word.toList, Text.isBlank c = false) →
        ((parse text).mentions word = true ↔ word.toList <:+: text.toList) := by
  have hchars : ∀ {word : String}, word ≠ "" → word.toList ≠ [] := fun hne hnil =>
    hne (String.toList_inj.1 hnil)
  refine ⟨fun word hne hbar => mentions_iff hbar (hchars hne) rules,
    fun rules' h => ⟨type_congr h, isOptional_withRules_congr h⟩,
    fun rules' h s property => isOptional_withRules_mono h, ?_⟩
  intro text word hne hbar hblank
  exact mentions_parse_iff (hchars hne) hbar hblank text

/-- Rules with a bar inside a token, and with two tokens whose ends would make a word. -/
def mixedRules : Rules := ⟨["array", "required", "in:a|b"]⟩

/-- The same tokens in another order, one of them twice. -/
def reorderedRules : Rules := ⟨["in:a|b", "required", "array", "required"]⟩

/-- The rules mention no word across two tokens. They give the same type in another order, the
property stays required when a token is added, and the words of a text survive the blanks in it. -/
theorem signals_tokenwise_mixed :
    mixedRules.mentions "in:a" = true ∧ mixedRules.mentions "yreq" = false ∧
    reorderedRules.type = mixedRules.type ∧
    (Shape.empty.withRules "tags" ⟨"nullable" :: mixedRules.tokens⟩).isOptional "tags" = false ∧
    (parse " array |required").mentions "array" = true := by
  obtain ⟨hwords, hsame, hmore, htext⟩ := signals_tokenwise mixedRules
  refine ⟨?_, ?_, ?_, ?_, ?_⟩
  · exact (hwords "in:a" (by decide) (by decide +kernel)).2 ⟨"in:a|b", by decide, by decide +kernel⟩
  · rw [← Bool.not_eq_true, hwords "yreq" (by decide) (by decide +kernel)]
    decide +kernel
  · refine (hsame reorderedRules fun token => ?_).1
    simp only [reorderedRules, mixedRules, List.mem_cons, List.not_mem_nil]
    tauto
  · refine hmore ⟨"nullable" :: mixedRules.tokens⟩ (List.subset_cons_self _ _) Shape.empty "tags" ?_
    decide +kernel
  · have hblank : ("array".toList.all fun c => !Text.isBlank c) = true := by decide +kernel
    refine (htext _ "array" (by decide) (by decide +kernel) fun c hc => ?_).2 (by decide +kernel)
    simpa using List.all_eq_true.1 hblank c hc

end Rules

end DtoInterfaces
