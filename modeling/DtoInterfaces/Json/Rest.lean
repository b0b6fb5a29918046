/-!
# What scanners leave

A scanner takes a piece off the front of a text and answers with what follows it. That what is
left is no longer than the text is part of the answer, so that a loop over scanners ends for a
reason that can be seen.

## Main definitions

* `Rest` — a text that is no longer than a given one.
* `Rest.whole`, `Rest.behind`, `Rest.after` — how rests come about.
-/

namespace DtoInterfaces

namespace Json

/-- What a scanner leaves of a text. -/
abbrev Rest (cs : List Char) := { rest : List Char // rest.length ≤ cs.length }

namespace Rest

/-- All of the text is left. -/
def whole (cs : List Char) : Rest cs := ⟨cs, Nat.le_refl _⟩

/-- What is left of a text is left of the text with one more character in front. -/
def behind {cs : List Char} (c : Char) (rest : Rest cs) : Rest (c :: cs) :=
  ⟨rest.1, Nat.le_succ_of_le rest.2⟩

/-- What is left of what is left. -/
def after {cs : List Char} (first : Rest cs) (second : Rest first.1) : Rest cs :=
  ⟨second.1, Nat.le_trans second.2 first.2⟩

@[simp] theorem val_behind {cs : List Char} (c : Char) (rest : Rest cs) :
    (behind c rest).1 = rest.1 := rfl

end Rest

end Json

end DtoInterfaces
