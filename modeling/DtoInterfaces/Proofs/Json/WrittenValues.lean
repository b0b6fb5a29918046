import DtoInterfaces.Json.Reader
import DtoInterfaces.Proofs.Json.WrittenText

/-!
# Reading written values

The compact text of a value is read as the document of that value, and nothing follows it. The
argument goes by way of the tokens: the text of a value is cut into the tokens of the value, and the
machine that builds documents takes these from the place where a value should stand to the place
behind it, whatever collections are open around it and whatever comes behind.

Values with numbers are left out, because how a number is written is a matter of its own.

## Main definitions

* `Value.tokens` — the tokens of a value.
* `Value.isNumberFree` — the values without numbers.

## Main results

* `tokens_compact` — the compact text of a value has the tokens of the value.
* `run_tokens` — the tokens of a value build its document.
* `Reader.run_compact` — reading the compact text of a value.
-/

namespace DtoInterfaces

namespace Json

/-! ### Tokens -/

mutual

/-- The tokens of a value. -/
def Value.tokens : Value → List Token
  | .null => [.null]
  | .bool b => [.bool b]
  | .number n => [.number (some n)]
  | .string s => [.string (some s)]
  | .array items => .openArray :: Value.itemTokens items ++ [.closeArray]
  | .object members => .openObject :: Value.memberTokens members ++ [.closeObject]

/-- The tokens of the items, with commas between them. -/
def Value.itemTokens : List Value → List Token
  | [] => []
  | [v] => v.tokens
  | v :: vs => v.tokens ++ .comma :: Value.itemTokens vs

/-- The tokens of the members, with commas between them. -/
def Value.memberTokens : List (String × Value) → List Token
  | [] => []
  | [(name, v)] => .string (some name) :: .colon :: v.tokens
  | (name, v) :: vs =>
    .string (some name) :: .colon :: v.tokens ++ .comma :: Value.memberTokens vs

end

mutual

/-- Whether there is no number in a value. -/
def Value.isNumberFree : Value → Bool
  | .number _ => false
  | .array items => Value.areNumberFree items
  | .object members => Value.haveNumberFree members
  | _ => true

/-- `Value.isNumberFree`, for each item. -/
def Value.areNumberFree : List Value → Bool
  | [] => true
  | v :: vs => v.isNumberFree && Value.areNumberFree vs

/-- `Value.isNumberFree`, for the value of each member. -/
def Value.haveNumberFree : List (String × Value) → Bool
  | [] => true
  | (_, v) :: vs => v.isNumberFree && Value.haveNumberFree vs

end

/-- A word is read up to its end, whatever follows it. -/
theorem afterWord?_append (word rest : List Char) :
    ∃ left, afterWord? word (word ++ rest) = some left ∧ left.1 = rest := by
  induction word with
  | nil => cases rest <;> exact ⟨_, rfl, rfl⟩
  | cons c word ih =>
    obtain ⟨left, hleft, hrest⟩ := ih
    refine ⟨left.behind c, ?_, by rw [Rest.val_behind, hrest]⟩
    change afterWord? (c :: word) (c :: (word ++ rest)) = _
    rw [afterWord?, if_pos rfl, hleft, Option.map_some]

/-- A word of the syntax is a token by itself. -/
theorem tokens_word {c : Char} {word : List Char} {t : Token} (hsep : isSeparator c = false)
    (h : ∀ cs, Token.scan? c cs = (afterWord? word cs).map (t, ·)) (rest : List Char) :
    tokens (c :: word ++ rest) = t :: tokens rest := by
  obtain ⟨left, hleft, hrest⟩ := afterWord?_append word rest
  have hscan : Token.scan? c (word ++ rest) = some (t, left) := by
    rw [h, hleft, Option.map_some]
  rw [List.cons_append, tokens_cons_of_scan? hsep hscan, hrest]

theorem tokens_null (rest : List Char) :
    tokens (['n', 'u', 'l', 'l'] ++ rest) = .null :: tokens rest :=
  tokens_word (by decide) (fun _ => rfl) rest

theorem tokens_writeBool (b : Bool) (rest : List Char) :
    tokens (writeBool b ++ rest) = .bool b :: tokens rest := by
  cases b with
  | true => exact tokens_word (by decide) (fun _ => rfl) rest
  | false => exact tokens_word (by decide) (fun _ => rfl) rest

/-- A mark of the syntax is a token by itself. -/
theorem tokens_mark {c : Char} {t : Token} (hsep : isSeparator c = false)
    (h : ∀ cs, Token.scan? c cs = some (t, .whole cs)) (cs : List Char) :
    tokens (c :: cs) = t :: tokens cs :=
  tokens_cons_of_scan? hsep (h cs)

theorem tokens_openArray (cs : List Char) : tokens ('[' :: cs) = .openArray :: tokens cs :=
  tokens_mark (by decide) (fun _ => rfl) cs

theorem tokens_closeArray (cs : List Char) : tokens (']' :: cs) = .closeArray :: tokens cs :=
  tokens_mark (by decide) (fun _ => rfl) cs

theorem tokens_openObject (cs : List Char) : tokens ('\x7b' :: cs) = .openObject :: tokens cs :=
  tokens_mark (by decide) (fun _ => rfl) cs

theorem tokens_closeObject (cs : List Char) : tokens ('\x7d' :: cs) = .closeObject :: tokens cs :=
  tokens_mark (by decide) (fun _ => rfl) cs

theorem tokens_comma (cs : List Char) : tokens (',' :: cs) = .comma :: tokens cs :=
  tokens_mark (by decide) (fun _ => rfl) cs

theorem tokens_colon (cs : List Char) : tokens (':' :: cs) = .colon :: tokens cs :=
  tokens_mark (by decide) (fun _ => rfl) cs

mutual

/-- **The compact text of a value** has the tokens of the value. -/
theorem tokens_compact : ∀ {v : Value}, v.isNumberFree = true → ∀ rest : List Char,
    tokens (v.compact ++ rest) = v.tokens ++ tokens rest
  | .null, _, rest => tokens_null rest
  | .bool b, _, rest => tokens_writeBool b rest
  | .string s, _, rest => by
    rw [Value.compact, tokens_writeString, String.ofList_toList, Value.tokens,
      List.singleton_append]
  | .array items, h, rest => by
    rw [Value.isNumberFree] at h
    rw [Value.compact, Value.tokens, List.append_assoc, List.cons_append, tokens_openArray,
      List.singleton_append, tokens_compactItems h, tokens_closeArray]
    simp
  | .object members, h, rest => by
    rw [Value.isNumberFree] at h
    rw [Value.compact, Value.tokens, List.append_assoc, List.cons_append, tokens_openObject,
      List.singleton_append, tokens_compactMembers h, tokens_closeObject]
    simp

theorem tokens_compactItems : ∀ {vs : List Value}, Value.areNumberFree vs = true →
    ∀ rest : List Char, tokens (Value.compactItems vs ++ rest) = Value.itemTokens vs ++ tokens rest
  | [], _, rest => rfl
  | [v], h, rest => by
    rw [Value.areNumberFree, Value.areNumberFree, Bool.and_true] at h
    exact tokens_compact h rest
  | v :: v' :: vs, h, rest => by
    rw [Value.areNumberFree, Bool.and_eq_true] at h
    rw [Value.compactItems, Value.itemTokens, List.append_assoc, tokens_compact h.1,
      List.cons_append, tokens_comma, tokens_compactItems h.2, List.append_assoc, List.cons_append]
    · exact List.cons_ne_nil v' vs
    · exact List.cons_ne_nil v' vs

/-- The compact text of the members has their tokens. -/
theorem tokens_compactMembers : ∀ {vs : List (String × Value)}, Value.haveNumberFree vs = true →
    ∀ rest : List Char,
      tokens (Value.compactMembers vs ++ rest) = Value.memberTokens vs ++ tokens rest
  | [], _, rest => rfl
  | [(name, v)], h, rest => by
    rw [Value.haveNumberFree, Value.haveNumberFree, Bool.and_true] at h
    rw [Value.compactMembers, Value.memberTokens, List.append_assoc, tokens_writeString,
      List.cons_append, tokens_colon, tokens_compact h, String.ofList_toList]
    rfl
  | (name, v) :: v' :: vs, h, rest => by
    rw [Value.haveNumberFree, Bool.and_eq_true] at h
    rw [Value.compactMembers, Value.memberTokens, List.append_assoc, List.append_assoc,
      tokens_writeString, List.cons_append, tokens_colon, tokens_compact h.1, List.cons_append,
      tokens_comma, tokens_compactMembers h.2, String.ofList_toList]
    · simp
    · exact List.cons_ne_nil v' vs
    · exact List.cons_ne_nil v' vs

end

/-! ### Documents -/

theorem run_of_step_inr {frames frames' : List Frame} {mode mode' : Mode} {t : Token}
    (h : mode.step frames t = .inr (mode', frames')) (ts : List Token) :
    mode.run frames (t :: ts) = mode'.run frames' ts := by
  rw [Mode.run, h]

mutual

/-- **The tokens of a value** take the machine from the place of a value to the place behind it. -/
theorem run_tokens : ∀ (v : Value) (frames : List Frame) (ts : List Token),
    Mode.value.run frames (v.tokens ++ ts) = (Mode.after (Doc.ofValue v)).run frames ts
  | .null, _, ts => run_of_step_inr rfl ts
  | .bool _, _, ts => run_of_step_inr rfl ts
  | .number _, _, ts => run_of_step_inr rfl ts
  | .string _, _, ts => run_of_step_inr rfl ts
  | .array [], _, ts => (run_of_step_inr rfl _).trans (run_of_step_inr rfl ts)
  | .array (v :: vs), frames, ts => by
    rw [Value.tokens, List.append_assoc, List.cons_append, run_of_step_inr rfl,
      List.singleton_append, run_itemTokens (List.cons_ne_nil v vs)]
    rfl
  | .object [], _, ts => (run_of_step_inr rfl _).trans (run_of_step_inr rfl ts)
  | .object (member :: members), frames, ts => by
    rw [Value.tokens, List.append_assoc, List.cons_append, run_of_step_inr rfl,
      List.singleton_append, run_memberTokens (List.cons_ne_nil member members)]
    rfl

/-- The tokens of the items complete an array. -/
theorem run_itemTokens : ∀ {vs : List Value}, vs ≠ [] → ∀ (done : List Doc) (frames : List Frame)
    (ts : List Token),
    Mode.value.run (.array done :: frames) (Value.itemTokens vs ++ .closeArray :: ts) =
      (Mode.after (.array (done.reverse ++ Doc.ofValues vs))).run frames ts
  | [], hne, _, _, _ => absurd rfl hne
  | [v], _, done, frames, ts => by
    rw [Value.itemTokens, run_tokens v, run_of_step_inr rfl, List.reverse_cons, Doc.ofValues,
      Doc.ofValues]
  | v :: v' :: vs, _, done, frames, ts => by
    rw [Value.itemTokens, List.append_assoc, run_tokens v, List.cons_append, run_of_step_inr rfl,
      run_itemTokens (List.cons_ne_nil v' vs), List.reverse_cons, List.append_assoc,
      List.singleton_append, Doc.ofValues]
    · rfl
    · exact List.cons_ne_nil v' vs

/-- The tokens of the members complete an object. -/
theorem run_memberTokens : ∀ {vs : List (String × Value)}, vs ≠ [] →
    ∀ (done : List (Key × Doc)) (frames : List Frame) (ts : List Token),
    (Mode.name done).run frames (Value.memberTokens vs ++ .closeObject :: ts) =
      (Mode.after (.object (done.reverse ++ Doc.ofMembers vs))).run frames ts
  | [], hne, _, _, _ => absurd rfl hne
  | [(name, v)], _, done, frames, ts => by
    rw [Value.memberTokens, List.cons_append, List.cons_append, run_of_step_inr rfl,
      run_of_step_inr rfl, run_tokens v, run_of_step_inr rfl, List.reverse_cons, Doc.ofMembers,
      Doc.ofMembers]
    rfl
  | (name, v) :: member :: members, _, done, frames, ts => by
    rw [Value.memberTokens, List.append_assoc, List.cons_append, List.cons_append,
      run_of_step_inr rfl, run_of_step_inr rfl, run_tokens v, List.cons_append,
      run_of_step_inr rfl, run_memberTokens (List.cons_ne_nil member members), List.reverse_cons,
      List.append_assoc, List.singleton_append, Doc.ofMembers]
    · rfl
    · exact List.cons_ne_nil member members

end

section Text

variable {v : Value} {cs : List Char}

theorem ofText_of_tokens (h : ∀ rest, tokens (cs ++ rest) = v.tokens ++ tokens rest) :
    Document.ofText (String.ofList cs) = ⟨Doc.ofValue v, true⟩ := by
  have htokens : tokens cs = v.tokens ++ [] := by
    have hcs := h []
    rwa [List.append_nil, tokens] at hcs
  rw [Document.ofText, String.toList_ofList, htokens, run_tokens]
  rfl

theorem Reader.run_of_tokens {α : Type} (read : Reader α)
    (h : ∀ rest, tokens (cs ++ rest) = v.tokens ++ tokens rest) :
    Reader.run read (String.ofList cs) = read 0 (Doc.ofValue v) := by
  rw [Reader.run, ofText_of_tokens h]
  cases read 0 (Doc.ofValue v) <;> rfl

/-- **Reading the compact text of a value** is reading its document. -/
theorem Reader.run_compact {α : Type} (read : Reader α) (h : v.isNumberFree = true) :
    Reader.run read (String.ofList v.compact) = read 0 (Doc.ofValue v) :=
  Reader.run_of_tokens read (tokens_compact h)

end Text

end Json

end DtoInterfaces
