import DtoInterfaces.Text.Segments

/-!
# Paths

A path is a text, and a list of components that is read off the text. Paths are compared, ordered
and looked up by their components, but shown and handed on as the text they were written as, so
`a//b` and `a/./b/` are one place with two spellings. A leading `.` is a component of its own, and
`..` is never resolved: what it means depends on the file system.

Every component ends somewhere in the text. The text up to that place is the path that encloses
the next component, in the spelling in which the whole path was given.

## Main definitions

* `Path`, `Component` — paths and their components.
* `Path.components` — the components of a path.
* `Path.ancestors`, `Path.parent?` — the path itself with the paths around it, and the nearest of
  the latter.
* `Path.join` — a path below another.
* `Path.extension?` — the extension of the last component.
* `Path.isBelow` — whether a path starts with the components of another.
-/

namespace DtoInterfaces

/-- A path, as it is written. -/
structure Path where
  text : String
deriving DecidableEq, Inhabited

/-- A component of a path. -/
inductive Component where
  /-- The root of the file system. -/
  | root
  /-- A dot at the front of a relative path. -/
  | current
  /-- Two dots. -/
  | parent
  | name (text : List Char)
deriving DecidableEq

namespace Component

/-- The rank of a component in the order of paths: the root, the leading dot, the double dot, and
then the names in the order of their characters. -/
def rank : Component → List Nat
  | root => [0]
  | current => [1]
  | parent => [2]
  | name cs => 3 :: cs.map Char.toNat

theorem rank_injective : Function.Injective rank := by
  intro a b h
  cases a <;> cases b <;> simp_all [rank]
  rename_i cs ds
  induction cs generalizing ds with
  | nil => simpa [eq_comm] using h
  | cons c cs ih =>
    cases ds with
    | nil => simp at h
    | cons d ds =>
      simp only [List.map_cons, List.cons.injEq] at h ⊢
      exact ⟨Char.toNat_inj.1 h.1, ih ds h.2⟩

/-- The component of a segment behind the first one; empty segments and single dots are none. -/
def ofSegment? : List Char → Option Component
  | [] | ['.'] => none
  | ['.', '.'] => some parent
  | cs => some (name cs)

end Component

namespace Path

/-- The characters of a path. -/
def chars (p : Path) : List Char := p.text.toList

/-! ### Components -/

/-- The components of some segments, each with the text up to its end; `before` is the text in
front of them. -/
def stepsAfter (before : List Char) : List (List Char) → List (Component × List Char)
  | [] => []
  | segment :: segments =>
    match Component.ofSegment? segment with
    | none => stepsAfter (before ++ '/' :: segment) segments
    | some c => (c, before ++ '/' :: segment) :: stepsAfter (before ++ '/' :: segment) segments

/-- The component of the first segment. An empty segment in front of a slash is the root, and a
single dot is a component here. -/
def firstStep? (segment : List Char) (isOnly : Bool) : Option (Component × List Char) :=
  match segment with
  | [] => if isOnly then none else some (.root, ['/'])
  | ['.'] => some (.current, ['.'])
  | cs => (Component.ofSegment? cs).map fun c => (c, cs)

/-- The components of a path, each with the text up to its end. -/
def steps (p : Path) : List (Component × List Char) :=
  match p.chars.splitOn '/' with
  | [] => []
  | segment :: segments => (firstStep? segment segments.isEmpty).toList ++ stepsAfter segment segments

/-- The components of a path. -/
def components (p : Path) : List Component := p.steps.map Prod.fst

/-- Whether a path starts at the root. -/
def isAbsolute (p : Path) : Bool := p.chars.head? == some '/'

/-- Whether a path is written as the empty text. -/
def isEmpty (p : Path) : Bool := p.text.isEmpty

/-! ### Order -/

/-- The order key of a path. -/
def rank (p : Path) : List (List Nat) := p.components.map Component.rank

instance : Ord Path := ⟨fun p q => compare p.rank q.rank⟩

instance : Std.TransOrd Path :=
  inferInstanceAs (Std.TransCmp (compareOn rank))

theorem compare_eq_iff {p q : Path} : compare p q = .eq ↔ p.components = q.components := by
  rw [show compare p q = compare p.rank q.rank from rfl, Std.LawfulEqOrd.compare_eq_iff_eq, rank,
    rank, List.map_inj_right fun _ _ => Component.rank_injective.eq_iff.1]

/-! ### Paths around a path -/

/-- The paths that enclose a path, the nearest first. A relative path ends with the empty one; the
root and the empty path have none. -/
def enclosing (p : Path) : List Path :=
  match p.steps.reverse with
  | [] => []
  | _ :: earlier =>
    earlier.map (fun step => ⟨String.ofList step.2⟩) ++ if p.isAbsolute then [] else [⟨""⟩]

/-- The path itself and the paths that enclose it. -/
def ancestors (p : Path) : List Path := p :: p.enclosing

/-- The nearest path around a path. -/
def parent? (p : Path) : Option Path := p.enclosing.head?

/-- Whether a path starts with the components of another. -/
def isBelow (p base : Path) : Bool := base.components.isPrefixOf p.components

/-! ### Names -/

/-- The extension of a name: what follows its last dot, unless the dot is the first character. -/
def extensionOf? (name : List Char) : Option (List Char) :=
  if '.' ∈ name.drop 1 then some (Text.afterLast '.' name) else none

/-- The extension of the last component, if that is a name. -/
def extension? (p : Path) : Option String :=
  match p.components.getLast? with
  | some (.name cs) => (extensionOf? cs).map String.ofList
  | _ => none

/-- The path that `p` is when it is taken below `base`: `p` itself if it starts at the root. -/
def join (base p : Path) : Path :=
  if p.isAbsolute then p
  else if base.isEmpty || base.chars.getLast? == some '/' then ⟨base.text ++ p.text⟩
  else ⟨base.text ++ "/" ++ p.text⟩

end Path

end DtoInterfaces
