import DtoInterfaces.Proofs.TypeExpr.Reader
import DtoInterfaces.Proofs.TypeExpr.Simplify

/-!
# Types read back

What is written for a type is read as that type again, so two types never have one text. This holds
of the types whose text can be told apart at all. A union of fewer than two members leaves no bar, a
union among the members of a union leaves no parentheses, and a name could be anything, a text
between quotes included. So the unions are asked to have two members at least, none of which is a
union, and the names to be names.

## One rule for each way of writing

`Reads cs ts` says what the reader does with a text on its own: it gets from the front of a union
to the end of the members `ts`, whatever is open around it. There is one rule for each way in which
texts are put together, and the type is taken apart only once, to choose between the rules.

## Main definitions

* `TypeExpr.isName` — the names of interfaces.
* `TypeExpr.isReadable` — the types that read back.
* `TypeReader.Reads` — the members that a text is read as.

## Main results

* `TypeReader.reads_write` — the text of a type is read as its alternatives.
* `TypeExpr.read?_text` — types read back.
-/

namespace DtoInterfaces

namespace TypeExpr

/-! ### Readable types -/

/-- Whether a text can be the name of an interface: it holds no mark, does not start like an
integer, and is none of the basic types. Every identifier is such a name, and many other texts
are. -/
def isName (name : String) : Bool :=
  match name.toList with
  | [] => false
  | c :: cs =>
    !startsInteger c && (c :: cs).all (fun c => !isMark c) &&
      basicTypes.all fun t => t.write != c :: cs

mutual

/-- Whether a type reads back: at any depth its unions have two members or more, none of which is a
union, and its references are names. -/
def isReadable : TypeExpr → Bool
  | any | string | number | boolean | object | literal _ => true
  | array t => t.isReadable
  | reference name => isName name
  | union ts => 2 ≤ ts.length && areItems ts

/-- Whether all types of a list read back and none is a union. -/
def areItems : List TypeExpr → Bool
  | [] => true
  | t :: ts => !t.isUnion && t.isReadable && areItems ts

end

theorem ofDistinct_alternatives {t : TypeExpr} (h : t.isReadable = true) :
    ofDistinct t.alternatives = t := by
  cases t with
  | union ts =>
    rw [isReadable, Bool.and_eq_true, decide_eq_true_eq] at h
    exact ofDistinct_of_two_le h.1
  | _ => rfl

theorem isWide_eq_isUnion {t : TypeExpr} (h : t.isReadable = true) : t.isWide = t.isUnion := by
  cases t with
  | union ts =>
    rw [isReadable, Bool.and_eq_true, decide_eq_true_eq] at h
    match ts, h.1 with
    | _ :: _ :: _, _ => rfl
  | _ => rfl

/-! ### Words -/

theorem isMark_of_isDigit {c : Char} (h : c.isDigit = true) : isMark c = false := by
  rw [Bool.eq_false_iff]
  intro hmark
  have hcases : c = ' ' ∨ c = '|' ∨ c = '[' ∨ c = ']' ∨ c = '(' ∨ c = ')' ∨ c = '\'' := by
    simpa [isMark] using hmark
  rcases hcases with rfl | rfl | rfl | rfl | rfl | rfl | rfl <;> revert h <;> decide

theorem natural?_digitsOf (n : Nat) : natural? (Decimal.digitsOf n) = some n := by
  have hall : (Nat.toDigits 10 n).all Char.isDigit = true :=
    List.all_eq_true.2 fun _ => Nat.isDigit_of_mem_toDigits (by decide) (by decide)
  rw [natural?, Decimal.digitsOf, if_pos ⟨Nat.toDigits_ne_nil, hall⟩, Nat.ofDigitChars_ten_toDigits]

theorem mem_writeInt {n : Int} {c : Char} (h : c ∈ Json.writeInt n) : startsInteger c = true := by
  have hdigit : ∀ c ∈ Decimal.digitsOf n.natAbs, startsInteger c = true := fun d hd => by
    rw [startsInteger, Nat.isDigit_of_mem_toDigits (by decide) (by decide) hd, Bool.or_true]
  rw [Json.writeInt] at h
  split at h
  · rcases List.mem_cons.1 h with rfl | h
    · rfl
    · exact hdigit c h
  · exact hdigit c h

theorem integer?_digitsOf (n : Nat) : integer? (Decimal.digitsOf n) = some (n : Int) := by
  unfold integer?
  split
  · rename_i digits hdigits
    have hdash : '-' ∈ Decimal.digitsOf n := by
      rw [hdigits]
      exact List.mem_cons_self
    exact absurd (Nat.isDigit_of_mem_toDigits (by decide) (by decide) hdash) (by decide)
  · rw [natural?_digitsOf]
    rfl

theorem integer?_writeInt (n : Int) : integer? (Json.writeInt n) = some n := by
  rw [Json.writeInt]
  split
  · rename_i hneg
    rw [integer?, natural?_digitsOf, Option.map_some]
    congr 1
    omega
  · rename_i hpos
    rw [integer?_digitsOf, Int.natAbs_of_nonneg (Int.not_lt.1 hpos)]

theorem isMark_of_startsInteger {c : Char} (h : startsInteger c = true) : isMark c = false := by
  rcases Bool.or_eq_true _ _ ▸ h with hdash | hdigit
  · rw [beq_iff_eq.1 hdash]
    decide
  · exact isMark_of_isDigit hdigit

theorem ofWord?_writeInt (n : Int) : ofWord? (Json.writeInt n) = some (literal (.number n)) := by
  cases hword : Json.writeInt n with
  | nil =>
    have hinteger := integer?_writeInt n
    rw [hword] at hinteger
    cases hinteger
  | cons c cs =>
    have hstart : startsInteger c = true := mem_writeInt (hword ▸ List.mem_cons_self)
    rw [ofWord?, if_pos hstart, ← hword, integer?_writeInt, Option.map_some]

theorem ofWord?_name {name : String} (h : isName name = true) :
    ofWord? name.toList = some (reference name) := by
  unfold isName at h
  split at h
  · cases h
  · rename_i c cs hname
    simp only [Bool.and_eq_true, Bool.not_eq_true', List.all_eq_true, bne_iff_ne] at h
    obtain ⟨⟨hstart, -⟩, hbasic⟩ := h
    have hfind : basicTypes.find? (·.write == c :: cs) = none :=
      List.find?_eq_none.2 fun t ht => by simpa using hbasic t ht
    rw [hname, ofWord?, if_neg (by simp [hstart]), hfind, Option.getD_none, ← hname,
      String.ofList_toList]

theorem ofWord?_basic {t : TypeExpr} (h : t ∈ basicTypes) : ofWord? t.write = some t := by
  simp only [basicTypes, List.mem_cons, List.not_mem_nil, or_false] at h
  rcases h with rfl | rfl | rfl | rfl | rfl <;> decide

theorem isMark_of_basic {t : TypeExpr} (h : t ∈ basicTypes) :
    ∀ c ∈ t.write, isMark c = false := by
  have hall : t.write.all (fun c => !isMark c) = true := by
    simp only [basicTypes, List.mem_cons, List.not_mem_nil, or_false] at h
    rcases h with rfl | rfl | rfl | rfl | rfl <;> rfl
  intro c hc
  simpa using List.all_eq_true.1 hall c hc

theorem isMark_of_name {name : String} (h : isName name = true) :
    ∀ c ∈ name.toList, isMark c = false := by
  unfold isName at h
  split at h
  · cases h
  · rename_i c cs hname
    simp only [Bool.and_eq_true, List.all_eq_true, Bool.not_eq_true'] at h
    rw [hname]
    exact h.1.2

end TypeExpr

/-! ### What a text is read as -/

namespace TypeReader

variable {cs cs' : List Char} {ts : List TypeExpr} {t : TypeExpr}

/-- Whatever is open around it, the text takes the reader from the front of a union to the end of
the members `ts`: all but the last one are behind it, and the last one can end where it stands. -/
def Reads (cs : List Char) (ts : List TypeExpr) : Prop :=
  ∀ outer members, ∃ front last place, ts = front ++ [last] ∧ place.type? = some last ∧
    run ⟨outer, members, .front⟩ cs = some ⟨outer, members ++ front, place⟩

/-- A text that is read as a single type takes the reader to the end of that type. -/
theorem reads_singleton_iff : Reads cs [t] ↔ ∀ outer members, ∃ place, place.type? = some t ∧
    run ⟨outer, members, .front⟩ cs = some ⟨outer, members, place⟩ := by
  constructor
  · intro h outer members
    obtain ⟨front, last, place, hts, htype, hrun⟩ := h outer members
    cases front with
    | nil =>
      cases hts
      exact ⟨place, htype, by rw [hrun, List.append_nil]⟩
    | cons first front => cases front <;> cases hts
  · intro h outer members
    obtain ⟨place, htype, hrun⟩ := h outer members
    exact ⟨[], t, place, rfl, htype, by rw [hrun, List.append_nil]⟩

/-- **Words.** -/
theorem Reads.word {w : List Char} (hw : ∀ c ∈ w, TypeExpr.isMark c = false)
    (h : TypeExpr.ofWord? w = some t) : Reads w [t] := by
  refine reads_singleton_iff.2 fun outer members => ⟨.word w, h, ?_⟩
  cases w with
  | nil => cases h
  | cons c w =>
    have hc : TypeExpr.isMark c = false := hw c List.mem_cons_self
    have hopening : c ≠ '(' := fun heq => by
      rw [heq] at hc
      cases hc
    have hquote : c ≠ '\'' := fun heq => by
      rw [heq] at hc
      cases hc
    have hstep : step ⟨outer, members, .front⟩ c = some ⟨outer, members, .word [c]⟩ := by
      simp [step, hopening, hquote, hc]
    rw [run_cons, hstep, Option.bind_some, run_word fun d hd => hw d (List.mem_cons_of_mem c hd),
      List.singleton_append]

/-- **Texts between quotes.** -/
theorem Reads.quote (s : String) : Reads (TypeExpr.quote s.toList) [.literal (.text s)] := by
  refine reads_singleton_iff.2 fun outer members => ⟨.behind (.literal (.text s)), rfl, ?_⟩
  have hopening : step ⟨outer, members, .front⟩ '\'' = some ⟨outer, members, .quoted []⟩ := rfl
  have hclosing : step ⟨outer, members, .quoted s.toList⟩ '\'' =
      some ⟨outer, members, .behind (.literal (.text s))⟩ := by
    rw [step, if_pos rfl, String.ofList_toList]
  rw [TypeExpr.quote, List.cons_append, run_cons, hopening, Option.bind_some, run_append,
    run_escape, Option.bind_some, List.nil_append, run_cons, hclosing, Option.bind_some, run_nil]

/-- **Brackets** make an array. -/
theorem Reads.brackets (h : Reads cs [t]) : Reads (cs ++ ['[', ']']) [.array t] := by
  refine reads_singleton_iff.2 fun outer members => ⟨.behind (.array t), rfl, ?_⟩
  obtain ⟨place, htype, hrun⟩ := reads_singleton_iff.1 h outer members
  have hopening : step ⟨outer, members, place⟩ '[' = some ⟨outer, members, .bracket t⟩ :=
    step_of_type? htype rfl
  have hclosing : step ⟨outer, members, .bracket t⟩ ']' =
      some ⟨outer, members, .behind (.array t)⟩ := rfl
  rw [run_append, hrun, Option.bind_some, run_cons, hopening, Option.bind_some,
    run_cons, hclosing, Option.bind_some, run_nil]

/-- **Parentheses** make one type of the members between them. -/
theorem Reads.parentheses (h : Reads cs ts) :
    Reads ('(' :: cs ++ [')']) [.ofDistinct ts] := by
  refine reads_singleton_iff.2 fun outer members => ⟨.behind (.ofDistinct ts), rfl, ?_⟩
  obtain ⟨front, last, place, rfl, htype, hrun⟩ := h (members :: outer) []
  have hopening : step ⟨outer, members, .front⟩ '(' = some ⟨members :: outer, [], .front⟩ := rfl
  have hclosing : step ⟨members :: outer, front, place⟩ ')' =
      some ⟨outer, members, .behind (.ofDistinct (front ++ [last]))⟩ :=
    step_of_type? htype rfl
  rw [List.cons_append, run_cons, hopening, Option.bind_some, run_append, hrun, List.nil_append,
    Option.bind_some, run_cons, hclosing, Option.bind_some, run_nil]

/-- **Bars** put one more member in front. -/
theorem Reads.bar (h : Reads cs [t]) (h' : Reads cs' ts) :
    Reads (cs ++ ' ' :: '|' :: ' ' :: cs') (t :: ts) := by
  intro outer members
  obtain ⟨place, htype, hrun⟩ := reads_singleton_iff.1 h outer members
  obtain ⟨front', last', place', rfl, htype', hrun'⟩ := h' outer (members ++ [t])
  refine ⟨t :: front', last', place', rfl, htype', ?_⟩
  have hblank : step ⟨outer, members, place⟩ ' ' = some ⟨outer, members, .blank t⟩ :=
    step_of_type? htype rfl
  have hbar : step ⟨outer, members, .blank t⟩ '|' = some ⟨outer, members, .bar t⟩ := rfl
  have hfront : step ⟨outer, members, .bar t⟩ ' ' = some ⟨outer, members ++ [t], .front⟩ := rfl
  rw [run_append, hrun, Option.bind_some, run_cons, hblank, Option.bind_some,
    run_cons, hbar, Option.bind_some, run_cons, hfront, Option.bind_some, hrun', List.append_assoc,
    List.singleton_append]

theorem Reads.read? {text : String} (h : Reads text.toList ts) :
    TypeExpr.read? text = some (.ofDistinct ts) := by
  obtain ⟨front, last, place, rfl, htype, hrun⟩ := h [] []
  rw [TypeExpr.read?, start, hrun, Option.bind_some, answer?, htype, Option.map_some,
    List.nil_append]

/-! ### What is written is read -/

mutual

/-- **The text of a type** that reads back is read as the alternatives of the type. By induction on
the type: each way of writing has its rule. -/
theorem reads_write : ∀ {t : TypeExpr}, t.isReadable = true → Reads t.write t.alternatives
  | .any, _ | .string, _ | .number, _ | .boolean, _ | .object, _ =>
    .word (TypeExpr.isMark_of_basic (by simp [TypeExpr.basicTypes]))
      (TypeExpr.ofWord?_basic (by simp [TypeExpr.basicTypes]))
  | .array t, h => by
    have ht : t.isReadable = true := h
    have hitem : Reads (TypeExpr.parenthesize t.isWide t.write) [t] := by
      rw [TypeExpr.isWide_eq_isUnion ht]
      cases hunion : t.isUnion with
      | true =>
        have hreads := (reads_write ht).parentheses
        rwa [TypeExpr.ofDistinct_alternatives ht] at hreads
      | false =>
        have hreads := reads_write ht
        rwa [TypeExpr.alternatives_of_not_isUnion hunion] at hreads
    exact hitem.brackets
  | .reference name, h =>
    have hname : TypeExpr.isName name = true := h
    .word (TypeExpr.isMark_of_name hname) (TypeExpr.ofWord?_name hname)
  | .literal (.text s), _ => .quote s
  | .literal (.number n), _ =>
    .word (fun _ hc => TypeExpr.isMark_of_startsInteger (TypeExpr.mem_writeInt hc))
      (TypeExpr.ofWord?_writeInt n)
  | .union ts, h => by
    rw [TypeExpr.isReadable, Bool.and_eq_true, decide_eq_true_eq] at h
    exact reads_writeMembers (List.ne_nil_of_length_pos (by omega)) h.2

/-- The text of the members of a union is read as the members. -/
theorem reads_writeMembers : ∀ {ts : List TypeExpr}, ts ≠ [] → TypeExpr.areItems ts = true →
    Reads (TypeExpr.writeMembers ts) ts
  | [], hne, _ => absurd rfl hne
  | [t], _, h => by
    rw [TypeExpr.areItems, TypeExpr.areItems, Bool.and_true, Bool.and_eq_true,
      Bool.not_eq_true'] at h
    have hreads := reads_write h.2
    rwa [TypeExpr.alternatives_of_not_isUnion h.1] at hreads
  | t :: t' :: ts, _, h => by
    rw [TypeExpr.areItems, Bool.and_eq_true, Bool.and_eq_true, Bool.not_eq_true'] at h
    have hreads := reads_write h.1.2
    rw [TypeExpr.alternatives_of_not_isUnion h.1.1] at hreads
    exact hreads.bar (reads_writeMembers (List.cons_ne_nil _ _) h.2)

end

end TypeReader

/-! ### Reading back -/

namespace TypeExpr

/-- **Types read back.** The text of a readable type is read as that type, and no other readable
type has that text. -/
theorem read?_text {t : TypeExpr} (h : t.isReadable = true) :
    read? t.text = some t ∧ ∀ t' : TypeExpr, t'.isReadable = true → t'.text = t.text → t' = t := by
  have hread : ∀ {t : TypeExpr}, t.isReadable = true → read? t.text = some t := by
    intro t ht
    have hreads : TypeReader.Reads t.text.toList t.alternatives := by
      rw [text, String.toList_ofList]
      exact TypeReader.reads_write ht
    rw [hreads.read?, ofDistinct_alternatives ht]
  refine ⟨hread h, fun t' h' htext => ?_⟩
  have hsame : some t' = some t := by
    rw [← hread h', ← hread h, htext]
  exact Option.some_inj.1 hsame

/-- A type whose literal holds every mark of the syntax. -/
def markedType : TypeExpr :=
  array (union [literal (.text "it's (a | b)[] \\"), reference "Note$1",
    array (union [number, literal (.number (-12))]), any])

/-- The marks of a literal are not taken for those of the type around it. -/
theorem read?_text_markedType :
    markedType.isReadable = true ∧
    markedType.text = "('it\\'s (a | b)[] \\\\' | Note$1 | (number | -12)[] | any)[]" ∧
    read? markedType.text = some markedType ∧
    ∀ t : TypeExpr, t.isReadable = true → t.text = markedType.text → t = markedType := by
  have hreadable : markedType.isReadable = true := by
    rfl
  have htext : markedType.text = "('it\\'s (a | b)[] \\\\' | Note$1 | (number | -12)[] | any)[]" := by
    decide +kernel
  obtain ⟨hread, honly⟩ := read?_text hreadable
  exact ⟨hreadable, htext, hread, honly⟩

end TypeExpr

end DtoInterfaces
