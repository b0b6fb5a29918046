import DtoInterfaces.Proofs.Rules
import DtoInterfaces.Proofs.Text.Trimming

/-!
# The tokens of a text with bars

A text with bars is cut at the bars, each piece is trimmed, and what is empty then is dropped. This
loses blanks and bars, but no word, and it makes none: a word without blanks and bars stands in one
of the tokens exactly if it stands in the text.

What comes out has a form that it keeps. Tokens that are not empty, have no blanks at their ends and
no bar inside come back unchanged when they are joined and cut again; no other tokens do, because
every token of a text has that form.

## Main definitions

* `Rules.IsToken` — the form of the tokens of texts.

## Main results

* `Rules.mentions_parse_iff` — the words of a text are those of its tokens.
* `Rules.parse_joined_iff` — which rules come back from their joined text.
-/

namespace DtoInterfaces

namespace Rules

variable {cs token : List Char}

/-- The form of the tokens of a text with bars. -/
structure IsToken (token : String) : Prop where
  ne_empty : token ≠ ""
  first : ∀ c ∈ token.toList.head?, Text.isBlank c = false
  last : ∀ c ∈ token.toList.getLast?, Text.isBlank c = false
  bar : bar ∉ token.toList

theorem mem_tokensOf_iff : token ∈ tokensOf cs ↔
    token ≠ [] ∧ ∃ part ∈ cs.splitOn bar, Text.trim part = token := by
  simp only [tokensOf, List.mem_filter, List.mem_map, decide_eq_true_eq, and_comm]

theorem isToken_of_mem_tokensOf (h : token ∈ tokensOf cs) : IsToken (String.ofList token) := by
  obtain ⟨hne, part, hpart, rfl⟩ := mem_tokensOf_iff.1 h
  refine ⟨?_, ?_, ?_, ?_⟩
  · rwa [Ne, ← String.toList_inj, String.toList_ofList]
  · rw [String.toList_ofList]
    exact fun _ => Text.head?_trim_not_blank
  · rw [String.toList_ofList]
    exact fun _ => Text.getLast?_trim_not_blank
  · rw [String.toList_ofList]
    intro hbar
    exact separator_not_mem_of_mem_splitOn hpart ((Text.trim_sublist part).subset hbar)

/-! ### Words -/

/-- A word without blanks and bars stands in one of the tokens exactly if it stands in the text. -/
theorem exists_infix_token_iff {word : List Char} (hne : word ≠ []) (hbar : bar ∉ word)
    (hblank : ∀ c ∈ word, Text.isBlank c = false) :
    (∃ token ∈ tokensOf cs, word <:+: token) ↔ word <:+: cs := by
  have hparts : word <:+: cs ↔ ∃ part ∈ cs.splitOn bar, word <:+: part := by
    rw [← infix_intercalate_iff hbar hne, List.intercalate_splitOn]
  rw [hparts]
  constructor
  · rintro ⟨token, htoken, hword⟩
    obtain ⟨-, part, hpart, rfl⟩ := mem_tokensOf_iff.1 htoken
    exact ⟨part, hpart, (Text.infix_trim_iff hne hblank).1 hword⟩
  · rintro ⟨part, hpart, hword⟩
    have htrim : word <:+: Text.trim part := (Text.infix_trim_iff hne hblank).2 hword
    -- what holds a word is not dropped
    refine ⟨Text.trim part, mem_tokensOf_iff.2 ⟨fun hnil => ?_, part, hpart, rfl⟩, htrim⟩
    rw [hnil, List.infix_nil] at htrim
    exact hne htrim

/-- **The words of a text are those of its tokens**, as long as they have no blanks and no bars. -/
theorem mentions_parse_iff {word : String} (hne : word.toList ≠ []) (hbar : bar ∉ word.toList)
    (hblank : ∀ c ∈ word.toList, Text.isBlank c = false) (text : String) :
    (parse text).mentions word = true ↔ word.toList <:+: text.toList := by
  rw [mentions_iff hbar hne, ← exists_infix_token_iff hne hbar hblank]
  simp [parse]

/-! ### Joining and cutting -/

/-- Tokens of the form are their own trimmed parts. -/
theorem tokensOf_intercalate {tokens : List (List Char)}
    (h : ∀ token ∈ tokens, IsToken (String.ofList token)) :
    tokensOf ([bar].intercalate tokens) = tokens := by
  by_cases hnil : tokens = []
  · -- no token is written as the empty text, which is cut into one empty piece
    subst hnil
    decide
  · have hbar : ∀ token ∈ tokens, bar ∉ token := by
      intro token htoken
      simpa using (h token htoken).bar
    have htrim : tokens.map Text.trim = tokens := by
      rw [List.map_congr_left (g := id), List.map_id]
      intro token htoken
      exact Text.trim_eq_self (by simpa using (h token htoken).first)
        (by simpa using (h token htoken).last)
    rw [tokensOf, List.splitOn_intercalate bar hbar hnil, htrim, List.filter_eq_self]
    intro token htoken
    have hne := (h token htoken).ne_empty
    rw [Ne, ← String.toList_inj, String.toList_ofList] at hne
    simpa using hne

theorem isToken_of_mem_parse {text token : String} (h : token ∈ (parse text).tokens) :
    IsToken token := by
  obtain ⟨cs, hcs, rfl⟩ := List.mem_map.1 h
  exact isToken_of_mem_tokensOf hcs

/-- **Rules come back from their joined text** exactly if every token has the form. -/
theorem parse_joined_iff (rules : Rules) :
    parse rules.joined = rules ↔ ∀ token ∈ rules.tokens, IsToken token := by
  constructor
  · intro h token htoken
    rw [← h] at htoken
    exact isToken_of_mem_parse htoken
  · intro h
    have htokens : tokensOf rules.joinedChars = rules.tokens.map String.toList := by
      refine tokensOf_intercalate fun token htoken => ?_
      obtain ⟨t, ht, rfl⟩ := List.mem_map.1 htoken
      rw [String.ofList_toList]
      exact h t ht
    have hback : (rules.tokens.map String.toList).map String.ofList = rules.tokens := by simp
    rw [parse, joined, String.toList_ofList, htokens, hback]

end Rules

end DtoInterfaces
