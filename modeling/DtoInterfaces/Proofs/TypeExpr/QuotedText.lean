import DtoInterfaces.TypeExpr.Text
import Mathlib.Data.List.Basic

/-!
# Texts between quotes

What a text between quotes denotes is found from left to right. A backslash and the character behind
it stand for one character, every other character stands for itself, and the first quote that has no
backslash of its own ends the text. So a text between quotes is well formed if every quote inside
has such a backslash, the closing one has not, and there is no line break.

## The part that holds for every text

A text is written with a backslash in front of every backslash and every quote. That is enough for
the quotes and for the value, whatever the text is: read from left to right, the backslashes that
were put in pair up with the characters behind them. It is not enough for line breaks, which are
written as they are. So the two parts are kept apart, and the second one is an equivalence.

## Main definitions

* `QuotedText.opensEscape` — whether the character behind a text is escaped.
* `QuotedText.unescape?` — a text with its escapes undone.
* `QuotedText.IsBody`, `QuotedText.Denotes` — what stands between two quotes, and with them.

## Main results

* `QuotedText.isBody_iff` — where the escapes can be undone, the quotes are right.
* `TypeExpr.isBody_escape` — an escaped text is the body of that text.
* `TypeExpr.denotes_text_iff` — which texts are denoted by their types.
-/

namespace DtoInterfaces

namespace QuotedText

/-! ### Undoing escapes -/

/-- Whether a character ends a line. -/
def isLineBreak (c : Char) : Bool := c == '\n' || c == '\r'

/-- The character that is meant by one behind a backslash. Some letters stand for control
characters. Digits, `x` and `u` begin the code of a character, which is not read here, and a line
break joins two lines; everything else stands for itself. -/
def escaped? (c : Char) : Option Char :=
  match c with
  | 'b' => some '\x08'
  | 't' => some '\t'
  | 'n' => some '\n'
  | 'v' => some '\x0b'
  | 'f' => some '\x0c'
  | 'r' => some '\r'
  | 'x' | 'u' => none
  | c => if c.isDigit || isLineBreak c then none else some c

/-- Whether the character behind a text is escaped: the text ends in a backslash that is not escaped
itself. -/
def opensEscape (cs : List Char) : Bool := cs.foldl (fun isOpen c => !isOpen && c == '\\') false

/-- How far the escapes of a text have been undone. -/
structure Undone where
  /-- The characters that are meant. -/
  value : List Char
  /-- Whether a backslash waits for the character behind it. -/
  isOpen : Bool

namespace Undone

/-- Nothing has been read. -/
def start : Undone := ⟨[], false⟩

/-- One character. A quote that is not escaped is refused. -/
def step (quote : Char) (u : Undone) (c : Char) : Option Undone :=
  if u.isOpen then (escaped? c).map fun d => ⟨u.value ++ [d], false⟩
  else if c = '\\' then some ⟨u.value, true⟩
  else if c = quote then none
  else some ⟨u.value ++ [c], false⟩

/-- One character after the other. -/
def run (quote : Char) (u : Undone) (cs : List Char) : Option Undone := cs.foldlM (step quote) u

end Undone

/-- A text with its escapes undone, if they can be, and if no quote in it stands on its own. -/
def unescape? (quote : Char) (cs : List Char) : Option (List Char) :=
  (Undone.start.run quote cs).bind fun u => if u.isOpen then none else some u.value

/-- What stands between two quotes and denotes a value, line breaks apart. -/
structure IsBody (quote : Char) (body value : List Char) : Prop where
  /-- Every quote inside is escaped. -/
  quotes : ∀ before after, body = before ++ quote :: after → opensEscape before = true
  /-- The quote behind it is not. -/
  closing : opensEscape body = false
  undone : unescape? quote body = some value

/-- A well-formed text between quotes that denotes a value. -/
def Denotes (quote : Char) (text value : List Char) : Prop :=
  ∃ body, text = quote :: body ++ [quote] ∧ IsBody quote body value ∧
    ∀ c ∈ body, isLineBreak c = false

/-! ### Runs -/

section Runs

variable {quote c : Char} {u u' : Undone} {cs : List Char}

@[simp] theorem run_nil (quote : Char) (u : Undone) : u.run quote [] = some u := rfl

@[simp] theorem run_cons (quote : Char) (u : Undone) (c : Char) (cs : List Char) :
    u.run quote (c :: cs) = (u.step quote c).bind (·.run quote cs) := List.foldlM_cons

@[simp] theorem run_append (quote : Char) (u : Undone) (cs cs' : List Char) :
    u.run quote (cs ++ cs') = (u.run quote cs).bind (·.run quote cs') := List.foldlM_append

/-- What a character can do: it is the one behind a backslash, or a backslash, or stands for
itself. -/
theorem step_cases (h : u.step quote c = some u') :
    (u.isOpen = true ∧ ∃ d, escaped? c = some d ∧ u' = ⟨u.value ++ [d], false⟩) ∨
    (u.isOpen = false ∧ c = '\\' ∧ u' = ⟨u.value, true⟩) ∨
    (u.isOpen = false ∧ c ≠ '\\' ∧ c ≠ quote ∧ u' = ⟨u.value ++ [c], false⟩) := by
  rw [Undone.step] at h
  cases hopen : u.isOpen with
  | true =>
    rw [if_pos hopen, Option.map_eq_some_iff] at h
    obtain ⟨d, hd, rfl⟩ := h
    exact .inl ⟨rfl, d, hd, rfl⟩
  | false =>
    rw [if_neg (by simp [hopen])] at h
    by_cases hslash : c = '\\'
    · rw [if_pos hslash, Option.some_inj] at h
      exact .inr (.inl ⟨rfl, hslash, h.symm⟩)
    · rw [if_neg hslash] at h
      by_cases hquote : c = quote
      · rw [if_pos hquote] at h
        cases h
      · rw [if_neg hquote, Option.some_inj] at h
        exact .inr (.inr ⟨rfl, hslash, hquote, h.symm⟩)

theorem isOpen_of_step (h : u.step quote c = some u') : u'.isOpen = (!u.isOpen && c == '\\') := by
  obtain ⟨hopen, d, -, rfl⟩ | ⟨hopen, rfl, rfl⟩ | ⟨hopen, hslash, -, rfl⟩ := step_cases h
  · simp [hopen]
  · simp [hopen]
  · simp [hslash]

theorem isOpen_of_run (h : u.run quote cs = some u') :
    u'.isOpen = cs.foldl (fun isOpen c => !isOpen && c == '\\') u.isOpen := by
  induction cs generalizing u with
  | nil =>
    rw [run_nil, Option.some_inj] at h
    rw [h, List.foldl_nil]
  | cons c cs ih =>
    rw [run_cons, Option.bind_eq_some_iff] at h
    obtain ⟨u₁, hstep, hrun⟩ := h
    rw [ih hrun, List.foldl_cons, isOpen_of_step hstep]

theorem isOpen_eq_opensEscape (h : Undone.start.run quote cs = some u) :
    u.isOpen = opensEscape cs := isOpen_of_run h

theorem step_quote (h : u.step quote quote = some u') (hne : quote ≠ '\\') : u.isOpen = true := by
  obtain ⟨hopen, -⟩ | ⟨-, hslash, -⟩ | ⟨-, -, hquote, -⟩ := step_cases h
  · exact hopen
  · exact absurd hslash hne
  · exact absurd rfl hquote

end Runs

/-- **Where the escapes can be undone, the quotes are right.** -/
theorem isBody_iff {quote : Char} {body value : List Char} (hne : quote ≠ '\\') :
    IsBody quote body value ↔ unescape? quote body = some value := by
  refine ⟨IsBody.undone, fun h => ?_⟩
  obtain ⟨u, hrun, hvalue⟩ := Option.bind_eq_some_iff.1 h
  refine ⟨fun before after hbody => ?_, ?_, h⟩
  · rw [hbody, run_append, Option.bind_eq_some_iff] at hrun
    obtain ⟨u₁, hbefore, hafter⟩ := hrun
    rw [run_cons, Option.bind_eq_some_iff] at hafter
    obtain ⟨u₂, hstep, -⟩ := hafter
    rw [← isOpen_eq_opensEscape hbefore]
    exact step_quote hstep hne
  · rw [← isOpen_eq_opensEscape hrun]
    by_contra hopen
    rw [if_pos (by simpa using hopen)] at hvalue
    cases hvalue

/-! ### Characters in their places

Undoing escapes drops characters and adds none, so what stands in a text comes no later in the text
that it denotes. -/

section Places

variable {quote c : Char} {u u' : Undone} {cs : List Char}

/-- What has been read is kept. -/
theorem value_prefix_of_run (h : u.run quote cs = some u') : u.value <+: u'.value := by
  induction cs generalizing u with
  | nil =>
    rw [run_nil, Option.some_inj] at h
    subst h
    exact List.prefix_refl _
  | cons c cs ih =>
    rw [run_cons, Option.bind_eq_some_iff] at h
    obtain ⟨u₁, hstep, hrun⟩ := h
    refine List.IsPrefix.trans ?_ (ih hrun)
    obtain ⟨-, d, -, rfl⟩ | ⟨-, -, rfl⟩ | ⟨-, -, -, rfl⟩ := step_cases hstep
    · exact List.prefix_append _ _
    · exact List.prefix_refl _
    · exact List.prefix_append _ _

/-- Every character that is meant takes one to write. -/
theorem length_value_le (h : u.run quote cs = some u') :
    u'.value.length ≤ u.value.length + cs.length := by
  induction cs generalizing u with
  | nil =>
    rw [run_nil, Option.some_inj] at h
    subst h
    exact Nat.le_refl _
  | cons c cs ih =>
    rw [run_cons, Option.bind_eq_some_iff] at h
    obtain ⟨u₁, hstep, hrun⟩ := h
    have hle : u₁.value.length ≤ u.value.length + 1 := by
      obtain ⟨-, d, -, rfl⟩ | ⟨-, -, rfl⟩ | ⟨-, -, -, rfl⟩ := step_cases hstep <;> simp
    have hrest := ih hrun
    rw [List.length_cons]
    omega

theorem value_of_step (hc : escaped? c = some c) (hslash : c ≠ '\\')
    (h : u.step quote c = some u') : u'.value = u.value ++ [c] := by
  obtain ⟨-, d, hd, rfl⟩ | ⟨-, heq, -⟩ | ⟨-, -, -, rfl⟩ := step_cases h
  · rw [hc, Option.some_inj] at hd
    rw [hd]
  · exact absurd heq hslash
  · rfl

/-- **What stands in a text** comes no later in the text that it denotes. -/
theorem exists_place_of_unescape? {before after value : List Char} (hc : escaped? c = some c)
    (hslash : c ≠ '\\') (h : unescape? quote (before ++ c :: after) = some value) :
    ∃ front, front ++ [c] <+: value ∧ front.length ≤ before.length := by
  obtain ⟨u, hrun, hvalue⟩ := Option.bind_eq_some_iff.1 h
  rw [run_append, Option.bind_eq_some_iff] at hrun
  obtain ⟨u₁, hbefore, hrun⟩ := hrun
  rw [run_cons, Option.bind_eq_some_iff] at hrun
  obtain ⟨u₂, hstep, hafter⟩ := hrun
  refine ⟨u₁.value, ?_, by simpa [Undone.start] using length_value_le hbefore⟩
  have hvalue : u.value = value := by
    split at hvalue
    · cases hvalue
    · exact Option.some_inj.1 hvalue
  rw [← value_of_step hc hslash hstep, ← hvalue]
  exact value_prefix_of_run hafter

theorem length_le_of_unescape? {body value : List Char} (h : unescape? quote body = some value) :
    value.length ≤ body.length := by
  obtain ⟨u, hrun, hvalue⟩ := Option.bind_eq_some_iff.1 h
  have hle := length_value_le hrun
  split at hvalue
  · cases hvalue
  · rw [Option.some_inj] at hvalue
    simpa [Undone.start, hvalue] using hle

end Places

theorem body_inj {quote : Char} {body body' : List Char}
    (h : quote :: body ++ [quote] = quote :: body' ++ [quote]) : body = body' := by
  rw [List.cons_append, List.cons_append, List.cons_inj_right] at h
  exact List.append_cancel_right h

end QuotedText

/-! ### Texts as types -/

namespace TypeExpr

open QuotedText

/-- Escaping puts in backslashes and nothing else. -/
theorem mem_escape_iff {c : Char} {cs : List Char} (hc : c ≠ '\\') : c ∈ escape cs ↔ c ∈ cs := by
  rw [escape_eq_flatMap, List.mem_flatMap]
  constructor
  · rintro ⟨d, hd, hmem⟩
    rw [quoteChar] at hmem
    split at hmem
    · rw [List.mem_cons, List.mem_singleton] at hmem
      rw [hmem.resolve_left hc]
      exact hd
    · rw [List.mem_singleton.1 hmem]
      exact hd
  · intro hmem
    refine ⟨c, hmem, ?_⟩
    rw [quoteChar]
    split <;> simp

/-- A single character, however it is written, is undone to that character. -/
theorem run_quoteChar (before : List Char) (c : Char) :
    Undone.run '\'' ⟨before, false⟩ (quoteChar c) = some ⟨before ++ [c], false⟩ := by
  by_cases hc : c = '\'' ∨ c = '\\'
  · rw [quoteChar, if_pos hc]
    rcases hc with rfl | rfl <;> rfl
  · obtain ⟨hquote, hslash⟩ := not_or.1 hc
    simp [quoteChar, Undone.step, hquote, hslash]

theorem run_undone_escape (before cs : List Char) :
    Undone.run '\'' ⟨before, false⟩ (escape cs) = some ⟨before ++ cs, false⟩ := by
  rw [escape_eq_flatMap]
  induction cs generalizing before with
  | nil => rw [List.flatMap_nil, QuotedText.run_nil, List.append_nil]
  | cons c cs ih =>
    rw [List.flatMap_cons, QuotedText.run_append, run_quoteChar, Option.bind_some, ih,
      List.append_assoc, List.singleton_append]

/-- **An escaped text** stands for that text between quotes, whatever characters it has. -/
theorem isBody_escape (cs : List Char) : IsBody '\'' (escape cs) cs := by
  refine (isBody_iff (by decide)).2 ?_
  rw [unescape?, Undone.start, run_undone_escape]
  rfl

theorem toList_text_literal (v : String) :
    (literal (.text v)).text.toList = '\'' :: escape v.toList ++ ['\''] := by
  rw [text, String.toList_ofList]
  simp only [write, writeLiteral, quote]

/-- **Which texts are denoted by their types.** The type of any text is written between single
quotes: every quote inside is escaped, the closing one is not, and undoing the escapes from left to
right yields exactly that text. Line breaks are written as they are, and so it is a well-formed text
between quotes exactly for the texts without line breaks. -/
theorem denotes_text_iff (v : String) :
    (∃ body, (literal (.text v)).text.toList = '\'' :: body ++ ['\''] ∧
      IsBody '\'' body v.toList ∧
      ∀ c, isLineBreak c = true → (c ∈ body ↔ c ∈ v.toList)) ∧
    (Denotes '\'' (literal (.text v)).text.toList v.toList ↔
      ∀ c ∈ v.toList, isLineBreak c = false) := by
  have hbreak : ∀ c, isLineBreak c = true → (c ∈ escape v.toList ↔ c ∈ v.toList) := by
    intro c hc
    refine mem_escape_iff fun hslash => ?_
    rw [hslash] at hc
    exact absurd hc (by decide)
  refine ⟨⟨escape v.toList, toList_text_literal v, isBody_escape _, hbreak⟩, ?_, ?_⟩
  · rintro ⟨body, htext, -, hflat⟩ c hc
    have hbody : body = escape v.toList := body_inj (htext.symm.trans (toList_text_literal v))
    by_contra hline
    have hline : isLineBreak c = true := by simpa using hline
    have hmem : c ∈ body := by rw [hbody]; exact (hbreak c hline).2 hc
    rw [hflat c hmem] at hline
    cases hline
  · intro hflat
    refine ⟨escape v.toList, toList_text_literal v, isBody_escape _, fun c hc => ?_⟩
    by_contra hline
    have hline : isLineBreak c = true := by simpa using hline
    rw [hflat c ((hbreak c hline).1 hc)] at hline
    cases hline

/-- **A text on two lines is not denoted by its type.** The line feed stands between the quotes as
it is. -/
theorem text_twoLines :
    (literal (.text "a\nb")).text = "'a\nb'" ∧
    ¬ Denotes '\'' (literal (.text "a\nb")).text.toList "a\nb".toList := by
  have htext : (literal (.text "a\nb")).text = "'a\nb'" := by decide +kernel
  refine ⟨htext, ?_⟩
  rintro ⟨body, hbody, -, hflat⟩
  have hchars : (literal (.text "a\nb")).text.toList = '\'' :: ['a', '\n', 'b'] ++ ['\''] := by
    decide +kernel
  have hlines : ['a', '\n', 'b'] = body := body_inj (hchars.symm.trans hbody)
  have hline : isLineBreak '\n' = false := hflat '\n' (by rw [← hlines]; decide)
  exact absurd hline (by decide)

end TypeExpr

end DtoInterfaces
