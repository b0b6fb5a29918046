import DtoInterfaces.Proofs.Rules
import DtoInterfaces.Proofs.TypeExpr.ReadBack
import DtoInterfaces.Proofs.Typing.NormalForms

/-!
# Bars in front of brackets

Brackets make an array of the type in front of them. In the text `number | string[]` that is
`string` alone, so an array of numbers and texts needs parentheses: `(number | string)[]`. A bar is
out of the way if it stands in parentheses or in a text between quotes, and every other bar in front
of the brackets is open.

## Where an open bar comes from

Parentheses are put around a union of several members, and around nothing else. A union of a single
member is written as that member. If the member is a union of several members itself, its bars show,
but what stands in front of the brackets is a union of a single member, which gets no parentheses.
Brackets behind it leave the bars where they are. There is no other way, and no type of a generated
property is built like this: simplifying leaves no union of a single member.

## Outlines

Whether a place is open depends on everything in front of it. The outline of a text leaves out what
is not open and keeps the quotes and parentheses around it, so that the bars of an outline are the
open bars of the text. Outlines of texts that close what they open can be put together.

## Main definitions

* `Nesting`, `HasOpenBar` — where a place of a text is, and the bars that are open.
* `outline` — what is open in a text.
* `TypeExpr.hidesUnion` — a union of several members is the only member of a union.

## Main results

* `hasOpenBar_iff` — the open bars of a text are the bars of its outline.
* `TypeExpr.infix_outline_write_iff` — the types whose texts have open bars.
* `TypeExpr.hasOpenBar_item_iff` — the arrays whose brackets have an open bar in front of them.
* `Registry.hidesUnion_typeOfProperty` — the types of properties are no such items.
-/

namespace DtoInterfaces

/-! ### Open places -/

/-- Where a place of a text is: in so many parentheses, and there between quotes or not. -/
inductive Nesting where
  | plain (depth : Nat)
  /-- Between quotes. -/
  | quoted (depth : Nat)
  /-- Between quotes, behind a backslash that takes the next character with it. -/
  | escaped (depth : Nat)
deriving DecidableEq

namespace Nesting

/-- The place behind one more character. -/
def step : Nesting → Char → Nesting
  | plain n, c =>
    if c = '\'' then quoted n
    else if c = '(' then plain (n + 1)
    else if c = ')' then plain (n - 1)
    else plain n
  | quoted n, c => if c = '\'' then plain n else if c = '\\' then escaped n else quoted n
  | escaped n, _ => quoted n

/-- The place behind some characters. -/
def run (s : Nesting) (cs : List Char) : Nesting := cs.foldl step s

@[simp] theorem run_nil (s : Nesting) : s.run [] = s := rfl

@[simp] theorem run_cons (s : Nesting) (c : Char) (cs : List Char) :
    s.run (c :: cs) = (s.step c).run cs := rfl

@[simp] theorem run_append (s : Nesting) (cs cs' : List Char) :
    s.run (cs ++ cs') = (s.run cs).run cs' := List.foldl_append

end Nesting

/-- What is written between the members of a union. -/
def memberBar : List Char := [' ', '|', ' ']

/-- There is a bar between members in the text, outside quotes and parentheses. -/
def HasOpenBar (cs : List Char) : Prop :=
  ∃ front back, cs = front ++ memberBar ++ back ∧ Nesting.run (.plain 0) front = .plain 0

/-- The characters of a text that are open, if the text starts at the given place. A quote or a
parenthesis is open if one of its two sides is. -/
def outline (s : Nesting) : List Char → List Char
  | [] => []
  | c :: cs =>
    if s = .plain 0 ∨ s.step c = .plain 0 then c :: outline (s.step c) cs
    else outline (s.step c) cs

/-- Whether a character begins or ends a part of a text that is not open. -/
def isBoundary (c : Char) : Bool := c == '\'' || c == '(' || c == ')'

theorem isBoundary_of_mem_memberBar : ∀ c ∈ memberBar, isBoundary c = false := by
  simp [memberBar, isBoundary]

section Outline

variable {s : Nesting} {c : Char} {cs cs' w : List Char} {n : Nat}

@[simp] theorem outline_nil (s : Nesting) : outline s [] = [] := rfl

theorem outline_plain_zero_cons (c : Char) (cs : List Char) :
    outline (.plain 0) (c :: cs) = c :: outline (Nesting.step (.plain 0) c) cs :=
  if_pos (.inl rfl)

theorem outline_append (s : Nesting) (cs cs' : List Char) :
    outline s (cs ++ cs') = outline s cs ++ outline (s.run cs) cs' := by
  induction cs generalizing s with
  | nil => rfl
  | cons c cs ih =>
    rw [List.cons_append, outline, outline, ih, Nesting.run_cons]
    split <;> rfl

theorem step_of_isBoundary_eq_false (hc : isBoundary c = false) :
    Nesting.step (.plain n) c = .plain n := by
  simp only [isBoundary, Bool.or_eq_false_iff, beq_eq_false_iff_ne] at hc
  obtain ⟨⟨hquote, hopening⟩, hclosing⟩ := hc
  rw [Nesting.step, if_neg hquote, if_neg hopening, if_neg hclosing]

/-- Only a boundary leads to the open part of a text. -/
theorem isBoundary_of_step (hs : s ≠ .plain 0) (h : s.step c = .plain 0) : isBoundary c = true := by
  by_contra hc
  rw [Bool.not_eq_true] at hc
  cases s with
  | plain n => exact hs (step_of_isBoundary_eq_false hc ▸ h)
  | quoted n =>
    have hquote : c ≠ '\'' := by
      rintro rfl
      cases hc
    rw [Nesting.step, if_neg hquote] at h
    split at h <;> cases h
  | escaped n => cases h

/-- At the front of an open place stands what stands at the front of its outline. -/
theorem prefix_outline_iff (hw : ∀ c ∈ w, isBoundary c = false) :
    w <+: outline (.plain 0) cs ↔ w <+: cs := by
  induction w generalizing cs with
  | nil => simp
  | cons d w ih =>
    cases cs with
    | nil => rfl
    | cons c cs =>
      rw [outline_plain_zero_cons, List.cons_prefix_cons, List.cons_prefix_cons]
      refine and_congr_right fun hdc => ?_
      have hc : isBoundary c = false := hdc ▸ hw d List.mem_cons_self
      rw [step_of_isBoundary_eq_false hc]
      exact ih fun c hc => hw c (List.mem_cons_of_mem d hc)

/-- What holds no boundary stands in an outline where it stands open in the text. -/
theorem infix_outline_iff (hne : w ≠ []) (hw : ∀ c ∈ w, isBoundary c = false) :
    w <:+: outline s cs ↔ ∃ front back, cs = front ++ w ++ back ∧ s.run front = .plain 0 := by
  induction cs generalizing s with
  | nil => simp [hne]
  | cons c cs ih =>
    -- it stands at the front, or behind the first character
    have hsplit : (∃ front back, c :: cs = front ++ w ++ back ∧ s.run front = .plain 0) ↔
        (s = .plain 0 ∧ w <+: c :: cs) ∨
          ∃ front back, cs = front ++ w ++ back ∧ (s.step c).run front = .plain 0 := by
      constructor
      · rintro ⟨front, back, heq, hrun⟩
        cases front with
        | nil => exact .inl ⟨hrun, back, heq.symm⟩
        | cons d front =>
          rw [List.cons_append, List.cons_append] at heq
          obtain ⟨rfl, rfl⟩ := List.cons.inj heq
          exact .inr ⟨front, back, rfl, hrun⟩
      · rintro (⟨rfl, back, heq⟩ | ⟨front, back, rfl, hrun⟩)
        · exact ⟨[], back, heq.symm, rfl⟩
        · exact ⟨c :: front, back, rfl, hrun⟩
    rw [hsplit, ← ih, outline]
    by_cases hs : s = .plain 0
    · subst hs
      rw [if_pos (.inl rfl), List.infix_cons_iff, ← outline_plain_zero_cons, prefix_outline_iff hw]
      simp
    · split
      · rename_i hopen
        have hc : isBoundary c = true := isBoundary_of_step hs (hopen.resolve_left hs)
        have hfront : ¬ w <+: c :: outline (s.step c) cs := by
          intro hfront
          obtain hnil | ⟨w', rfl, -⟩ := List.prefix_cons_iff.1 hfront
          · exact hne hnil
          · rw [hw c List.mem_cons_self] at hc
            cases hc
        rw [List.infix_cons_iff]
        simp [hs, hfront]
      · simp [hs]

/-- **The open bars** of a text are the bars of its outline. -/
theorem hasOpenBar_iff : HasOpenBar cs ↔ memberBar <:+: outline (.plain 0) cs :=
  (infix_outline_iff (by decide) isBoundary_of_mem_memberBar).symm

/-! ### Closed texts -/

/-- A text that closes whatever it opens: behind it one is where one was in front of it, and nothing
of it is open in parentheses. -/
structure IsClosed (cs : List Char) : Prop where
  run (n : Nat) : Nesting.run (.plain n) cs = .plain n
  hidden (n : Nat) : outline (.plain (n + 1)) cs = []

theorem IsClosed.append (h : IsClosed cs) (h' : IsClosed cs') : IsClosed (cs ++ cs') where
  run n := by rw [Nesting.run_append, h.run, h'.run]
  hidden n := by rw [outline_append, h.run, h.hidden, h'.hidden, List.nil_append]

theorem IsClosed.outline_append (h : IsClosed cs) (cs' : List Char) :
    outline (.plain 0) (cs ++ cs') = outline (.plain 0) cs ++ outline (.plain 0) cs' := by
  rw [DtoInterfaces.outline_append, h.run]

/-- **Words** have no boundaries. -/
theorem isClosed_word (hw : ∀ c ∈ w, isBoundary c = false) :
    IsClosed w ∧ outline (.plain 0) w = w := by
  induction w with
  | nil => exact ⟨⟨fun _ => rfl, fun _ => rfl⟩, rfl⟩
  | cons c w ih =>
    have hc : ∀ n, Nesting.step (.plain n) c = .plain n := fun _ =>
      step_of_isBoundary_eq_false (hw c List.mem_cons_self)
    obtain ⟨hclosed, houtline⟩ := ih fun d hd => hw d (List.mem_cons_of_mem c hd)
    refine ⟨⟨fun n => ?_, fun n => ?_⟩, ?_⟩
    · rw [Nesting.run_cons, hc, hclosed.run]
    · rw [outline, hc, if_neg (by simp), hclosed.hidden]
    · rw [outline_plain_zero_cons, hc, houtline]

/-- An escaped text does not end the quotes around it, and nothing of it is open. -/
theorem run_escape_outline (n : Nat) (cs : List Char) :
    Nesting.run (.quoted n) (TypeExpr.escape cs) = .quoted n ∧
      outline (.quoted n) (TypeExpr.escape cs) = [] := by
  rw [TypeExpr.escape_eq_flatMap]
  induction cs with
  | nil => exact ⟨rfl, rfl⟩
  | cons c cs ih =>
    have hchar : Nesting.run (.quoted n) (TypeExpr.quoteChar c) = .quoted n ∧
        outline (.quoted n) (TypeExpr.quoteChar c) = [] := by
      by_cases hc : c = '\'' ∨ c = '\\'
      · simp [TypeExpr.quoteChar, outline, Nesting.step, hc]
      · obtain ⟨hquote, hslash⟩ := not_or.1 hc
        simp [TypeExpr.quoteChar, outline, Nesting.step, hquote, hslash]
    rw [List.flatMap_cons, Nesting.run_append, outline_append, hchar.1, hchar.2]
    exact ⟨ih.1, by rw [ih.2, List.nil_append]⟩

/-- **Texts between quotes.** -/
theorem isClosed_quote (cs : List Char) :
    IsClosed (TypeExpr.quote cs) ∧ outline (.plain 0) (TypeExpr.quote cs) = ['\'', '\''] := by
  have hrun : ∀ n, Nesting.run (.plain n) (TypeExpr.quote cs) = .plain n := by
    intro n
    rw [TypeExpr.quote, List.cons_append, Nesting.run_cons, Nesting.run_append]
    change Nesting.run ((Nesting.quoted n).run (TypeExpr.escape cs)) ['\''] = _
    rw [(run_escape_outline n cs).1]
    rfl
  have houtline : ∀ n, outline (.plain n) (TypeExpr.quote cs) =
      if n = 0 then ['\'', '\''] else [] := by
    intro n
    have hopening : Nesting.step (.plain n) '\'' = .quoted n := rfl
    have hclosing : Nesting.step (.quoted n) '\'' = .plain n := rfl
    rw [TypeExpr.quote, List.cons_append, outline, hopening, outline_append,
      (run_escape_outline n cs).1, (run_escape_outline n cs).2, outline, hclosing]
    by_cases hn : n = 0 <;> simp [hn]
  exact ⟨⟨hrun, fun n => by rw [houtline, if_neg (by omega)]⟩, by rw [houtline, if_pos rfl]⟩

/-- **Parentheses** hide what stands in them. -/
theorem IsClosed.parentheses (h : IsClosed cs) :
    IsClosed ('(' :: cs ++ [')']) ∧ outline (.plain 0) ('(' :: cs ++ [')']) = ['(', ')'] := by
  have hopening : ∀ n, Nesting.step (.plain n) '(' = .plain (n + 1) := fun _ => rfl
  have hclosing : ∀ n, Nesting.step (.plain (n + 1)) ')' = .plain n := fun _ => rfl
  have houtline : ∀ n, outline (.plain n) ('(' :: cs ++ [')']) =
      if n = 0 then ['(', ')'] else [] := by
    intro n
    rw [List.cons_append, outline, hopening, DtoInterfaces.outline_append, h.run, h.hidden, outline,
      hclosing]
    by_cases hn : n = 0 <;> simp [hn]
  refine ⟨⟨fun n => ?_, fun n => by rw [houtline, if_neg (by omega)]⟩, by rw [houtline, if_pos rfl]⟩
  rw [List.cons_append, Nesting.run_cons, hopening, Nesting.run_append, h.run]
  exact hclosing n

end Outline

/-! ### Types -/

namespace TypeExpr

mutual

/-- Whether every name in a type is a word. Identifiers are words. -/
def hasWordNames : TypeExpr → Bool
  | array t => t.hasWordNames
  | reference name => name.toList.all fun c => !isMark c
  | union ts => haveWordNames ts
  | _ => true

/-- `TypeExpr.hasWordNames`, for each type. -/
def haveWordNames : List TypeExpr → Bool
  | [] => true
  | t :: ts => t.hasWordNames && haveWordNames ts

end

/-- Whether a union of several members is the only member of a union, with nothing but arrays and
unions of a single member around the latter. -/
def hidesUnion : TypeExpr → Bool
  | array t => t.hidesUnion
  | union [t] => t.isWide || t.hidesUnion
  | _ => false

/-! ### The texts of types are closed -/

theorem isBoundary_of_isMark {c : Char} (h : isMark c = false) : isBoundary c = false := by
  rw [Bool.eq_false_iff]
  intro hc
  have hcases : (c = '\'' ∨ c = '(') ∨ c = ')' := by simpa [isBoundary] using hc
  rcases hcases with (rfl | rfl) | rfl <;> cases h

theorem isClosed_of_isMark {w : List Char} (hw : ∀ c ∈ w, isMark c = false) :
    IsClosed w ∧ ¬ memberBar <:+: outline (.plain 0) w := by
  obtain ⟨hclosed, houtline⟩ := isClosed_word fun c hc => isBoundary_of_isMark (hw c hc)
  refine ⟨hclosed, fun hbar => ?_⟩
  rw [houtline] at hbar
  have hblank : isMark ' ' = false := hw ' ' (hbar.mem (by decide))
  cases hblank

theorem isMark_of_hasWordNames {name : String} (h : (reference name).hasWordNames = true) :
    ∀ c ∈ name.toList, isMark c = false := by
  rw [hasWordNames] at h
  simpa using h

theorem isClosed_brackets : IsClosed ['[', ']'] := (isClosed_word (by simp [isBoundary])).1

theorem isClosed_memberBar : IsClosed memberBar := (isClosed_word isBoundary_of_mem_memberBar).1

theorem isClosed_parenthesize {cs : List Char} (needed : Bool) (h : IsClosed cs) :
    IsClosed (parenthesize needed cs) := by
  cases needed with
  | true => exact h.parentheses.1
  | false => exact h

mutual

/-- **The text of a type is closed.** -/
theorem isClosed_write : ∀ {t : TypeExpr}, t.hasWordNames = true → IsClosed t.write
  | .any, _ | .string, _ | .number, _ | .boolean, _ | .object, _ =>
    (isClosed_of_isMark (isMark_of_basic (by simp [basicTypes]))).1
  | .array t, h => by
    have ht : t.hasWordNames = true := h
    exact (isClosed_parenthesize t.isWide (isClosed_write ht)).append isClosed_brackets
  | .reference _, h => (isClosed_of_isMark (isMark_of_hasWordNames h)).1
  | .literal (.text s), _ => (isClosed_quote s.toList).1
  | .literal (.number _), _ =>
    (isClosed_of_isMark fun _ hc => isMark_of_startsInteger (mem_writeInt hc)).1
  | .union _, h => isClosed_writeMembers h

theorem isClosed_writeMembers : ∀ {ts : List TypeExpr}, haveWordNames ts = true →
    IsClosed (writeMembers ts)
  | [], _ => ⟨fun _ => rfl, fun _ => rfl⟩
  | [t], h => by
    rw [haveWordNames, haveWordNames, Bool.and_true] at h
    exact isClosed_write h
  | t :: t' :: ts, h => by
    rw [haveWordNames, Bool.and_eq_true] at h
    have hrest : IsClosed (memberBar ++ writeMembers (t' :: ts)) :=
      isClosed_memberBar.append (isClosed_writeMembers h.2)
    exact (isClosed_write h.1).append hrest

end

/-! ### The bars that show -/

theorem memberBar_infix_append_brackets {cs : List Char} :
    memberBar <:+: cs ++ ['[', ']'] ↔ memberBar <:+: cs := by
  rw [infix_append_cons_iff (by decide) (by decide)]
  exact or_iff_left (by decide)

theorem isWide_of_hidesUnion {t : TypeExpr} (h : t.hidesUnion = true) : t.isWide = false := by
  match t, h with
  | .array _, _ => rfl
  | .union [_], _ => rfl

/-- **What stands in front of brackets** shows a bar if the type shows one and is put in no
parentheses. -/
theorem infix_outline_item_iff {t : TypeExpr} (hclosed : IsClosed t.write)
    (h : memberBar <:+: outline (.plain 0) t.write ↔ t.isWide = true ∨ t.hidesUnion = true) :
    memberBar <:+: outline (.plain 0) (parenthesize t.isWide t.write) ↔ t.hidesUnion = true := by
  cases hwide : t.isWide with
  | true =>
    rw [parenthesize, if_pos rfl, hclosed.parentheses.2]
    have hhides : t.hidesUnion ≠ true := by
      intro hhides
      rw [isWide_of_hidesUnion hhides] at hwide
      cases hwide
    exact iff_of_false (by decide) hhides
  | false =>
    rw [parenthesize, if_neg Bool.false_ne_true, h, hwide]
    simp

/-- **The types whose texts show a bar** are the unions of several members and those that hide one.
By induction along the arrays and the unions of a single member: any other union shows its own bar,
and any other type is a word or a text between quotes. -/
theorem infix_outline_write_iff : ∀ {t : TypeExpr}, t.hasWordNames = true →
    (memberBar <:+: outline (.plain 0) t.write ↔ t.isWide = true ∨ t.hidesUnion = true)
  | .any, _ | .string, _ | .number, _ | .boolean, _ | .object, _ =>
    iff_of_false (isClosed_of_isMark (isMark_of_basic (by simp [basicTypes]))).2
      (by simp [isWide, hidesUnion])
  | .array t, h => by
    have ht : t.hasWordNames = true := h
    have hitem := infix_outline_item_iff (isClosed_write ht) (infix_outline_write_iff ht)
    have hbrackets : outline (.plain 0) ['[', ']'] = ['[', ']'] := rfl
    rw [write, (isClosed_parenthesize t.isWide (isClosed_write ht)).outline_append, hbrackets,
      memberBar_infix_append_brackets, hitem]
    simp [isWide, hidesUnion]
  | .reference _, h =>
    iff_of_false (isClosed_of_isMark (isMark_of_hasWordNames h)).2 (by simp [isWide, hidesUnion])
  | .literal (.text s), _ => by
    rw [write, writeLiteral, (isClosed_quote s.toList).2]
    exact iff_of_false (by decide) (by simp [isWide, hidesUnion])
  | .literal (.number _), _ =>
    iff_of_false (isClosed_of_isMark fun _ hc => isMark_of_startsInteger (mem_writeInt hc)).2
      (by simp [isWide, hidesUnion])
  | .union [], _ => iff_of_false (by decide) (by simp [isWide, hidesUnion])
  | .union [t], h => by
    rw [hasWordNames, haveWordNames, haveWordNames, Bool.and_true] at h
    have hshows := infix_outline_write_iff h
    rw [write, writeMembers, hshows]
    simp [isWide, hidesUnion]
  | .union (t :: t' :: ts), h => by
    rw [hasWordNames, haveWordNames, Bool.and_eq_true] at h
    have hbar : outline (.plain 0) memberBar = memberBar := rfl
    have hwrite : (union (t :: t' :: ts)).write =
        t.write ++ (memberBar ++ writeMembers (t' :: ts)) := by
      rw [write, writeMembers]
      · rfl
      · exact List.cons_ne_nil t' ts
    rw [hwrite, (isClosed_write h.1).outline_append, isClosed_memberBar.outline_append, hbar]
    exact iff_of_true (List.infix_append_of_infix_right (List.infix_append_of_infix_left
      List.infix_rfl)) (.inl rfl)

/-- **The arrays whose brackets have an open bar in front of them.** The text of an array ends in
brackets. In what stands in front of them there is a bar outside quotes and parentheses exactly if a
union of several members is hidden in a union of a single one, with nothing but arrays and unions of
a single member between that one and the brackets. -/
theorem hasOpenBar_item_iff {t : TypeExpr} (h : t.hasWordNames = true) :
    ∃ item, (array t).text.toList = item ++ ['[', ']'] ∧
      (HasOpenBar item ↔ t.hidesUnion = true) := by
  refine ⟨parenthesize t.isWide t.write, ?_, ?_⟩
  · rw [text, String.toList_ofList, write]
  · rw [hasOpenBar_iff]
    exact infix_outline_item_iff (isClosed_write h) (infix_outline_write_iff h)

/-- A union whose parts hold bars between quotes, in parentheses, and in front of brackets. -/
def barredUnion : TypeExpr :=
  union [array (union [literal (.text "a | b's"), reference "Note"]), array (array number)]

/-- The bars of an item stand in its parentheses. -/
theorem hasOpenBar_item_iff_barredUnion :
    barredUnion.hasWordNames = true ∧
    ∃ item, (array barredUnion).text.toList = item ++ ['[', ']'] ∧ ¬ HasOpenBar item := by
  have hnames : barredUnion.hasWordNames = true := by
    decide +kernel
  have hhides : barredUnion.hidesUnion = false := rfl
  obtain ⟨item, htext, hopen⟩ := hasOpenBar_item_iff hnames
  refine ⟨hnames, item, htext, fun hbar => ?_⟩
  rw [hopen.1 hbar] at hhides
  cases hhides

/-- A union of two members as the only member of a union. -/
def hiddenPair : TypeExpr := union [union [string, number]]

/-- **Brackets behind an open bar.** They are read as a part of the last member. -/
theorem hasOpenBar_hiddenPair :
    hiddenPair.hasWordNames = true ∧
    (array hiddenPair).text.toList = "string | number".toList ++ ['[', ']'] ∧
    HasOpenBar "string | number".toList ∧
    read? (array hiddenPair).text = some (union [string, array number]) := by
  refine ⟨rfl, ?_, ⟨"string".toList, "number".toList, ?_, ?_⟩, ?_⟩
  all_goals decide +kernel

theorem IsSettled.hidesUnion_eq_false {t : TypeExpr} (h : t.IsSettled) : t.hidesUnion = false := by
  cases h with
  | @union ls hsome _ =>
    match ls, hsome with
    | _ :: _ :: _, _ => rfl
  | _ => rfl

end TypeExpr

/-- **Properties are given no types that hide unions**, so brackets behind their types have no open
bars in front of them. -/
theorem Registry.hidesUnion_typeOfProperty (r : Registry) (className : String) (s : Shape)
    (property : String) : (r.typeOfProperty className s property).hidesUnion = false :=
  (r.givesType_typeOfProperty className s property).isSettled.hidesUnion_eq_false

end DtoInterfaces
