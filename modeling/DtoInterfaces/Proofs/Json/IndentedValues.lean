import DtoInterfaces.Proofs.Json.WrittenValues

/-!
# Reading indented values

The indented text of a value has the same tokens as the compact one. What it has besides is a new
line with its blanks in front of every part of a collection, and a blank behind every colon, and
these stand between tokens. So it is read as the document of the value as well, however deep the
value stands.

## Main results

* `tokens_indented` — the indented text of a value has the tokens of the value.
* `Reader.run_indented` — reading the indented text of a value.
-/

namespace DtoInterfaces

namespace Json

/-! ### Between tokens -/

theorem tokens_separator {c : Char} (h : isSeparator c = true) (cs : List Char) :
    tokens (c :: cs) = tokens cs := by
  rw [tokens, if_pos h]

theorem tokens_blanks (n : Nat) (cs : List Char) :
    tokens (List.replicate n ' ' ++ cs) = tokens cs := by
  induction n with
  | zero => rfl
  | succ n ih => rw [List.replicate_succ, List.cons_append, tokens_separator (by decide), ih]

theorem tokens_newLine (depth : Nat) (cs : List Char) :
    tokens (newLine depth ++ cs) = tokens cs := by
  rw [newLine, List.cons_append, tokens_separator (by decide), tokens_blanks]

/-! ### Tokens -/

mutual

/-- **The indented text of a value** has the tokens of the value. -/
theorem tokens_indented : ∀ {v : Value}, v.isNumberFree = true → ∀ (depth : Nat) (rest : List Char),
    tokens (v.indented depth ++ rest) = v.tokens ++ tokens rest
  | .null, _, _, rest => tokens_null rest
  | .bool b, _, _, rest => tokens_writeBool b rest
  | .string s, _, _, rest => by
    rw [Value.indented, tokens_writeString, String.ofList_toList, Value.tokens,
      List.singleton_append]
  | .array [], _, _, rest => by
    rw [Value.indented, List.cons_append, tokens_openArray, List.singleton_append,
      tokens_closeArray]
    rfl
  | .array (v :: vs), h, depth, rest => by
    rw [Value.isNumberFree] at h
    rw [Value.indented, Value.tokens, List.append_assoc, List.append_assoc, List.cons_append,
      tokens_openArray, tokens_indentedItems h, tokens_newLine, List.singleton_append,
      tokens_closeArray]
    · simp
    · exact List.cons_ne_nil v vs
  | .object [], _, _, rest => by
    rw [Value.indented, List.cons_append, tokens_openObject, List.singleton_append,
      tokens_closeObject]
    rfl
  | .object (member :: members), h, depth, rest => by
    rw [Value.isNumberFree] at h
    rw [Value.indented, Value.tokens, List.append_assoc, List.append_assoc, List.cons_append,
      tokens_openObject, tokens_indentedMembers h, tokens_newLine, List.singleton_append,
      tokens_closeObject]
    · simp
    · exact List.cons_ne_nil member members

/-- The lines of the items have their tokens. -/
theorem tokens_indentedItems : ∀ {vs : List Value}, Value.areNumberFree vs = true →
    ∀ (depth : Nat) (rest : List Char),
      tokens (Value.indentedItems depth vs ++ rest) = Value.itemTokens vs ++ tokens rest
  | [], _, _, rest => rfl
  | [v], h, depth, rest => by
    rw [Value.areNumberFree, Value.areNumberFree, Bool.and_true] at h
    rw [Value.indentedItems, Value.itemTokens, List.append_assoc, tokens_newLine,
      tokens_indented h]
  | v :: v' :: vs, h, depth, rest => by
    rw [Value.areNumberFree, Bool.and_eq_true] at h
    rw [Value.indentedItems, Value.itemTokens, List.append_assoc, List.append_assoc,
      tokens_newLine, tokens_indented h.1, List.cons_append, tokens_comma,
      tokens_indentedItems h.2, List.append_assoc, List.cons_append]
    · exact List.cons_ne_nil v' vs
    · exact List.cons_ne_nil v' vs

/-- The lines of the members have their tokens. -/
theorem tokens_indentedMembers : ∀ {vs : List (String × Value)}, Value.haveNumberFree vs = true →
    ∀ (depth : Nat) (rest : List Char),
      tokens (Value.indentedMembers depth vs ++ rest) = Value.memberTokens vs ++ tokens rest
  | [], _, _, rest => rfl
  | [(name, v)], h, depth, rest => by
    rw [Value.haveNumberFree, Value.haveNumberFree, Bool.and_true] at h
    rw [Value.indentedMembers, Value.memberTokens, List.append_assoc, List.append_assoc,
      tokens_newLine, tokens_writeString, List.cons_append, List.cons_append, tokens_colon,
      tokens_separator (by decide), tokens_indented h, String.ofList_toList]
    rfl
  | (name, v) :: v' :: vs, h, depth, rest => by
    rw [Value.haveNumberFree, Bool.and_eq_true] at h
    rw [Value.indentedMembers, Value.memberTokens]
    · simp only [List.append_assoc, List.cons_append]
      rw [tokens_newLine, tokens_writeString, tokens_colon, tokens_separator (by decide),
        tokens_indented h.1, tokens_comma, tokens_indentedMembers h.2, String.ofList_toList]
    · exact List.cons_ne_nil v' vs
    · exact List.cons_ne_nil v' vs

end

/-- **Reading the indented text of a value** is reading its document. -/
theorem Reader.run_indented {α : Type} (read : Reader α) {v : Value} (h : v.isNumberFree = true) :
    Reader.run read (String.ofList (v.indented 0)) = read 0 (Doc.ofValue v) :=
  Reader.run_of_tokens read (tokens_indented h 0)

end Json

end DtoInterfaces
