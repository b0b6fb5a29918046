import DtoInterfaces.Proofs.Json.WrittenValues
import DtoInterfaces.Proofs.Rules.Tokens

/-!
# The two forms of rules

Rules are written as one text with bars or as the list of their tokens. The two forms say the same
as long as the tokens could have come from a text: reading a text gives what reading the list of its
tokens gives, at any place of a document, and joining the tokens gives a text that is read as them.
A list can hold more than a text can, so the way from a list to a text and back is not open to every
list; it is to exactly those whose tokens have the form.

## Main results

* `Rules.read_string`, `Rules.read_strings` — reading either form.
* `Rules.parse_undoes_joined` — cutting undoes joining, and the two forms agree.
-/

namespace DtoInterfaces

namespace Rules

/-! ### Reading -/

theorem read_string (depth : Nat) (text : String) : read depth (.string text) = .ok (parse text) :=
  rfl

theorem allReadable_strings (depth : Nat) (tokens : List String) :
    Json.Doc.allReadable depth (tokens.map Json.Doc.string) = true := by
  induction tokens with
  | nil => rfl
  | cons token tokens ih =>
    rw [List.map_cons, Json.Doc.allReadable, ih]
    rfl

/-- A list of strings is a list of tokens. -/
theorem read_strings {depth : Nat} (h : depth < Json.depthLimit) (tokens : List String) :
    read depth (.array (tokens.map .string)) = .ok ⟨tokens⟩ := by
  have htokens : (tokens.map Json.Doc.string).map tokenOf = tokens := by
    rw [List.map_map]
    exact List.map_id tokens
  have hreadable : Json.Doc.readable depth (.array (tokens.map .string)) = true := by
    rw [Json.Doc.readable, allReadable_strings, Bool.and_true]
    exact decide_eq_true h
  rw [read, Json.Reader.shaped, if_pos hreadable, ofDoc?, htokens]

theorem ofValues_strings (tokens : List String) :
    Json.Doc.ofValues (tokens.map Json.Value.string) = tokens.map Json.Doc.string := by
  induction tokens with
  | nil => rfl
  | cons token tokens ih =>
    rw [List.map_cons, List.map_cons, Json.Doc.ofValues, ih, Json.Doc.ofValue]

theorem areNumberFree_strings (tokens : List String) :
    Json.Value.areNumberFree (tokens.map Json.Value.string) = true := by
  induction tokens with
  | nil => rfl
  | cons token tokens ih =>
    rw [List.map_cons, Json.Value.areNumberFree, ih]
    rfl

theorem run_read_string (text : String) :
    Json.Reader.run read (String.ofList (Json.Value.string text).compact) = .ok (parse text) :=
  Json.Reader.run_compact read rfl

theorem run_read_strings (tokens : List String) :
    Json.Reader.run read (String.ofList (Json.Value.array (tokens.map .string)).compact) =
      .ok ⟨tokens⟩ := by
  have hfree : (Json.Value.array (tokens.map .string)).isNumberFree = true :=
    areNumberFree_strings tokens
  rw [Json.Reader.run_compact read hfree, Json.Doc.ofValue, ofValues_strings,
    read_strings (by decide)]

/-! ### Both forms -/

/-- **Cutting undoes joining, and the two forms agree.** Rules come back from their joined text
exactly if no token is empty, has a blank at an end or a bar inside. All tokens of a text are like
that, so cutting, joining and cutting again is the same as cutting once. And a text is read as the
same rules as the list of its tokens is: at every place of a document that a reader can get to, and
from the texts of the two documents. -/
theorem parse_undoes_joined (rules : Rules) (text : String) :
    (parse rules.joined = rules ↔ ∀ token ∈ rules.tokens, IsToken token) ∧
    (∀ token ∈ (parse text).tokens, IsToken token) ∧
    parse (parse text).joined = parse text ∧
    (∀ depth < Json.depthLimit,
      read depth (.string text) = .ok (parse text) ∧
      read depth (.array ((parse text).tokens.map .string)) = .ok (parse text)) ∧
    Json.Reader.run read (String.ofList (Json.Value.string text).compact) = .ok (parse text) ∧
    Json.Reader.run read
      (String.ofList (Json.Value.array ((parse text).tokens.map .string)).compact) =
        .ok (parse text) := by
  have htokens : ∀ token ∈ (parse text).tokens, IsToken token := fun _ => isToken_of_mem_parse
  exact ⟨parse_joined_iff rules, htokens, (parse_joined_iff _).2 htokens,
    fun depth hdepth => ⟨read_string depth text, read_strings hdepth _⟩,
    run_read_string text, run_read_strings _⟩

/-- A text with blanks of several kinds around its tokens, with one inside a token, and with tokens
that are dropped. -/
def spacedRules : String := " required|\t| in:a, b\u3000||"

/-- The text has two tokens, which come back from their joined text. An empty token or one with a
bar does not. -/
theorem parse_undoes_joined_spaced :
    (parse spacedRules).tokens = ["required", "in:a, b"] ∧
    (parse spacedRules).joined = "required|in:a, b" ∧
    parse (parse spacedRules).joined = parse spacedRules ∧
    read 4 (.string spacedRules) = read 4 (.array [.string "required", .string "in:a, b"]) ∧
    parse (joined ⟨["", "a|b"]⟩) ≠ ⟨["", "a|b"]⟩ := by
  have htokens : (parse spacedRules).tokens = ["required", "in:a, b"] := by decide +kernel
  obtain ⟨-, -, hback, hread, -⟩ := parse_undoes_joined ⟨["", "a|b"]⟩ spacedRules
  refine ⟨htokens, by decide +kernel, hback, ?_, fun heq => ?_⟩
  · obtain ⟨hstring, hlist⟩ := hread 4 (by decide)
    rw [htokens] at hlist
    exact hstring.trans hlist.symm
  · have hform := (parse_undoes_joined ⟨["", "a|b"]⟩ spacedRules).1.1 heq
    exact (hform "" List.mem_cons_self).ne_empty rfl

end Rules

end DtoInterfaces
