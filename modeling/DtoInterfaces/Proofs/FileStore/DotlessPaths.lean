import DtoInterfaces.FileStore.Disk
import Mathlib.Data.List.Basic

/-!
# Paths without dots

A path is read in two ways. A disk follows its segments and gives dots a meaning of their own; paths
are compared and looked up by their components, among which two dots are one like any other and a
single dot counts only in front. Without dots the two readings agree: behind the root, if the path
starts there, the components are the segments, one by one.

Taking a name below such a path adds that name at the end of both, however the path is written. And
where two paths part at a name, the order of the names is the order of the paths, whatever follows.

## Main definitions

* `Component.ofName` — a name as a component.
* `Path.IsDotless` — no segment of the path is a dot or two dots.
* `Path.IsSegment` — what can stand between the slashes of a path.
* `Path.IsName` — what the entries of directories can be called.

## Main results

* `Path.components_of_isDotless` — the components of a path without dots.
* `Path.segments_join` — the segments of a path below another.
* `Path.compare_of_components` — the first name that differs decides.
-/

namespace DtoInterfaces

namespace Component

/-- A name as a component. -/
def ofName (name : String) : Component := .name name.toList

theorem ofName_injective : Function.Injective ofName := fun _ _ h =>
  String.toList_inj.1 (Component.name.inj h)

/-- A segment that is no dots is a name, unless it is empty. -/
theorem ofSegment?_of_ne {cs : List Char} (hne : cs ≠ []) (hdot : cs ≠ ['.'])
    (hdots : cs ≠ ['.', '.']) : ofSegment? cs = some (.name cs) := by
  unfold ofSegment?
  split
  · exact absurd rfl hne
  · exact absurd rfl hdot
  · exact absurd rfl hdots
  · rfl

end Component

namespace Path

variable {p q : Path} {name name' : String}

/-! ### Segments and components -/

/-- No segment of the path is a dot or two dots. -/
def IsDotless (p : Path) : Prop := ∀ segment ∈ Disk.segments p, segment ≠ "." ∧ segment ≠ ".."

/-- The segments of a text. -/
def segmentsOf (cs : List Char) : List (List Char) := (cs.splitOn '/').filter (· ≠ [])

theorem segments_eq (p : Path) : Disk.segments p = (segmentsOf p.chars).map String.ofList := rfl

theorem segmentsOf_nil : segmentsOf [] = [] := rfl

theorem segmentsOf_append_cons (cs ds : List Char) :
    segmentsOf (cs ++ '/' :: ds) = segmentsOf cs ++ segmentsOf ds := by
  rw [segmentsOf, List.splitOn_append_cons_self, List.filter_append, segmentsOf, segmentsOf]

theorem segmentsOf_of_not_mem {cs : List Char} (hne : cs ≠ []) (hslash : '/' ∉ cs) :
    segmentsOf cs = [cs] := by
  rw [segmentsOf, List.splitOn_eq_singleton hslash, List.filter_cons_of_pos (by simpa using hne),
    List.filter_nil]

theorem map_fst_stepsAfter (before : List Char) (segments : List (List Char)) :
    (stepsAfter before segments).map Prod.fst = segments.filterMap Component.ofSegment? := by
  induction segments generalizing before with
  | nil => rfl
  | cons segment segments ih =>
    rw [stepsAfter, List.filterMap_cons]
    cases Component.ofSegment? segment with
    | none => exact ih _
    | some c => rw [List.map_cons, ih]

/-- Behind the first segment only names are components of a path without dots. -/
theorem filterMap_ofSegment? {segments : List (List Char)}
    (h : ∀ cs ∈ segments.filter (· ≠ []), cs ≠ ['.'] ∧ cs ≠ ['.', '.']) :
    segments.filterMap Component.ofSegment? =
      (segments.filter (· ≠ [])).map Component.name := by
  induction segments with
  | nil => rfl
  | cons cs segments ih =>
    by_cases hne : cs = []
    · rw [List.filter_cons_of_neg (by simpa using hne)] at h ⊢
      rw [List.filterMap_cons, hne]
      exact ih h
    · rw [List.filter_cons_of_pos (by simpa using hne)] at h ⊢
      obtain ⟨hdot, hdots⟩ := h cs List.mem_cons_self
      rw [List.filterMap_cons, Component.ofSegment?_of_ne hne hdot hdots, List.map_cons,
        ih fun cs hcs => h cs (List.mem_cons_of_mem _ hcs)]

/-- A first segment that is not empty is a component, which is no root, and a name if it is no
dots. -/
theorem exists_firstStep? {cs : List Char} (hne : cs ≠ []) (isOnly : Bool) :
    ∃ first, first ≠ .root ∧ (cs ≠ ['.'] → cs ≠ ['.', '.'] → first = .name cs) ∧
      firstStep? cs isOnly = some (first, cs) := by
  by_cases hdot : cs = ['.']
  · subst hdot
    exact ⟨.current, by decide, fun h => absurd rfl h, rfl⟩
  · by_cases hdots : cs = ['.', '.']
    · subst hdots
      exact ⟨.parent, by decide, fun _ h => absurd rfl h, rfl⟩
    · refine ⟨.name cs, Component.noConfusion, fun _ _ => rfl, ?_⟩
      unfold firstStep?
      split
      · exact absurd rfl hne
      · exact absurd rfl hdot
      · rw [Component.ofSegment?_of_ne hne hdot hdots, Option.map_some]

theorem splitOn_slash_cons (cs : List Char) : ('/' :: cs).splitOn '/' = [] :: cs.splitOn '/' := by
  rw [← List.nil_append ('/' :: cs), List.splitOn_append_cons_self, List.splitOn_nil,
    List.singleton_append]

/-- **How a path starts.** It is empty; or it starts with a slash, which is the root; or it starts
with a segment of its own, whose component is no root, and a name if the segment is no dots. What
comes behind is the components of the later segments. -/
theorem components_cases (p : Path) :
    (p.chars = [] ∧ p.components = []) ∨
    (∃ cs, p.chars = '/' :: cs ∧
      p.components = .root :: (cs.splitOn '/').filterMap Component.ofSegment?) ∨
    ∃ c cs segment segments first, p.chars = c :: cs ∧ c ≠ '/' ∧
      (c :: cs).splitOn '/' = (c :: segment) :: segments ∧ first ≠ .root ∧
      (c :: segment ≠ ['.'] → c :: segment ≠ ['.', '.'] → first = .name (c :: segment)) ∧
      p.components = first :: segments.filterMap Component.ofSegment? := by
  rw [components, steps]
  cases p.chars with
  | nil => exact .inl ⟨rfl, rfl⟩
  | cons c cs =>
    obtain ⟨segment, segments, hcs⟩ := List.exists_cons_of_ne_nil (List.splitOn_ne_nil '/' cs)
    by_cases hc : c = '/'
    · subst hc
      have hfirst : firstStep? [] (cs.splitOn '/').isEmpty = some (.root, ['/']) := by
        rw [hcs]
        rfl
      refine .inr (.inl ⟨cs, rfl, ?_⟩)
      rw [splitOn_slash_cons]
      simp only [hfirst, Option.toList_some, List.singleton_append, List.map_cons,
        map_fst_stepsAfter]
    · have hsplit : (c :: cs).splitOn '/' = (c :: segment) :: segments := by
        rw [List.splitOn_cons_eq_if_modifyHead, if_neg (by simpa using hc), hcs]
        rfl
      obtain ⟨first, hroot, hname, hfirst⟩ :=
        exists_firstStep? (List.cons_ne_nil c segment) segments.isEmpty
      refine .inr (.inr ⟨c, cs, segment, segments, first, rfl, hc, hsplit, hroot, hname, ?_⟩)
      rw [hsplit]
      simp only [hfirst, Option.toList_some, List.singleton_append, List.map_cons,
        map_fst_stepsAfter]

/-- **The components of a path without dots** are its segments, behind the root if it starts
there. -/
theorem components_of_isDotless (h : p.IsDotless) :
    p.components =
      (if p.isAbsolute then [.root] else []) ++ (Disk.segments p).map Component.ofName := by
  have hdots : ∀ cs ∈ segmentsOf p.chars, cs ≠ ['.'] ∧ cs ≠ ['.', '.'] := by
    intro cs hcs
    have hsegment := h (String.ofList cs) (List.mem_map_of_mem hcs)
    refine ⟨fun hdot => hsegment.1 ?_, fun hdot => hsegment.2 ?_⟩
    · rw [hdot]
    · rw [hdot]
  have hnames : (Disk.segments p).map Component.ofName = (segmentsOf p.chars).map .name := by
    rw [segments_eq, List.map_map]
    exact List.map_congr_left fun cs _ => congrArg Component.name String.toList_ofList
  rw [hnames, isAbsolute]
  rcases components_cases p with ⟨hchars, hcomponents⟩ | ⟨cs, hchars, hcomponents⟩ |
    ⟨c, cs, segment, segments, first, hchars, hc, hsplit, -, hfirst, hcomponents⟩
  · rw [hcomponents, hchars]
    rfl
  · have hrest : segmentsOf ('/' :: cs) = (cs.splitOn '/').filter (· ≠ []) := by
      rw [segmentsOf, splitOn_slash_cons, List.filter_cons_of_neg (by simp)]
    rw [hchars, hrest] at hdots
    rw [hcomponents, hchars, hrest, filterMap_ofSegment? hdots]
    rfl
  · have hrest : segmentsOf (c :: cs) = (c :: segment) :: segments.filter (· ≠ []) := by
      rw [segmentsOf, hsplit, List.filter_cons_of_pos (by simp)]
    rw [hchars, hrest] at hdots
    obtain ⟨hdot, hdots'⟩ := hdots _ List.mem_cons_self
    have hlater := filterMap_ofSegment? fun cs hcs => hdots cs (List.mem_cons_of_mem _ hcs)
    rw [hcomponents, hfirst hdot hdots', hchars, hrest, hlater]
    simp [hc]

theorem head?_components_eq_root_iff : p.components.head? = some .root ↔ p.isAbsolute = true := by
  rw [isAbsolute]
  rcases components_cases p with ⟨hchars, hcomponents⟩ | ⟨cs, hchars, hcomponents⟩ |
    ⟨c, cs, segment, segments, first, hchars, hc, -, hroot, -, hcomponents⟩
  · simp [hchars, hcomponents]
  · simp [hchars, hcomponents]
  · simp [hchars, hcomponents, hc, hroot]

theorem components_ne_nil (h : p.isEmpty = false) : p.components ≠ [] := by
  rcases components_cases p with ⟨hchars, -⟩ | ⟨cs, -, hcomponents⟩ |
    ⟨c, cs, segment, segments, first, -, -, -, -, -, hcomponents⟩
  · simp_all [isEmpty, chars]
  · simp [hcomponents]
  · simp [hcomponents]

/-! ### Names below a path -/

theorem eq_of_chars_eq (h : p.chars = q.chars) : p = q := by
  cases p
  cases q
  exact congrArg Path.mk (String.toList_inj.1 h)

theorem chars_join (h : name.toList.head? ≠ some '/') (p : Path) :
    (p.join ⟨name⟩).chars =
      p.chars ++ (if p.isEmpty || p.chars.getLast? == some '/' then [] else ['/']) ++
        name.toList := by
  have hrelative : (⟨name⟩ : Path).isAbsolute = false := by
    simpa [isAbsolute, chars] using h
  rw [join, hrelative, if_neg Bool.false_ne_true]
  split <;> simp [chars]

/-- A text that is a single segment of a path. -/
structure IsSegment (s : String) : Prop where
  ne_empty : s ≠ ""
  noSlash : '/' ∉ s.toList

namespace IsSegment

variable {s : String}

theorem toList_ne_nil (h : IsSegment s) : s.toList ≠ [] := fun hnil =>
  h.ne_empty (String.toList_eq_nil_iff.1 hnil)

theorem head?_ne (h : IsSegment s) : s.toList.head? ≠ some '/' := fun hhead =>
  h.noSlash (List.mem_of_head? hhead)

theorem getLast?_ne (h : IsSegment s) : s.toList.getLast? ≠ some '/' := fun hlast =>
  h.noSlash (List.mem_of_getLast? hlast)

end IsSegment

section Join

/-- Whether a text can be the name of an entry of a directory. -/
structure IsName (name : String) : Prop where
  nonempty : name ≠ ""
  noSlash : '/' ∉ name.toList
  noDots : name ≠ "." ∧ name ≠ ".."
  short : name.utf8ByteSize ≤ Disk.longestName

variable (hname : IsName name)

include hname

theorem IsName.isSegment : IsSegment name := ⟨hname.nonempty, hname.noSlash⟩

/-- **A name below a path** is one more segment. -/
theorem segments_join (p : Path) : Disk.segments (p.join ⟨name⟩) = Disk.segments p ++ [name] := by
  have hone : segmentsOf name.toList = [name.toList] :=
    segmentsOf_of_not_mem hname.isSegment.toList_ne_nil hname.noSlash
  have hchars : segmentsOf (p.join ⟨name⟩).chars = segmentsOf p.chars ++ [name.toList] := by
    rw [chars_join hname.isSegment.head?_ne]
    by_cases hempty : p.isEmpty = true
    · have hnil : p.chars = [] := by
        simpa [isEmpty, chars] using hempty
      simp [hempty, hnil, hone, segmentsOf_nil]
    · by_cases hlast : p.chars.getLast? = some '/'
      · obtain ⟨cs, hcs⟩ := List.getLast?_eq_some_iff.1 hlast
        simp only [hlast, BEq.rfl, Bool.or_true, if_true, List.append_nil]
        rw [hcs, List.append_assoc, List.singleton_append, segmentsOf_append_cons,
          segmentsOf_append_cons, hone, segmentsOf_nil, List.append_nil]
      · have hslash : (p.isEmpty || p.chars.getLast? == some '/') = false := by
          simp [hempty, hlast]
        rw [hslash, if_neg Bool.false_ne_true, List.append_assoc, List.singleton_append,
          segmentsOf_append_cons, hone]
  rw [segments_eq, segments_eq, hchars, List.map_append, List.map_cons, List.map_nil,
    String.ofList_toList]

theorem isAbsolute_join (p : Path) : (p.join ⟨name⟩).isAbsolute = p.isAbsolute := by
  rw [isAbsolute, isAbsolute, chars_join hname.isSegment.head?_ne]
  cases hchars : p.chars with
  | nil =>
    have hempty : p.isEmpty = true := by
      simpa [isEmpty, chars] using hchars
    simpa [hempty] using hname.isSegment.head?_ne
  | cons c cs => simp

theorem IsDotless.join (h : p.IsDotless) : (p.join ⟨name⟩).IsDotless := by
  intro segment hsegment
  rw [segments_join hname] at hsegment
  rcases List.mem_append.1 hsegment with hsegment | hsegment
  · exact h segment hsegment
  · rw [List.mem_singleton.1 hsegment]
    exact hname.noDots

/-- **A name below a path without dots** is one more component. -/
theorem components_join (h : p.IsDotless) :
    (p.join ⟨name⟩).components = p.components ++ [Component.ofName name] := by
  rw [components_of_isDotless (h.join hname), components_of_isDotless h, isAbsolute_join hname,
    segments_join hname, List.map_append, List.append_assoc, List.map_cons, List.map_nil]

theorem components_join_append (h : p.IsDotless) (place : List String) :
    (p.join ⟨name⟩).components ++ place.map Component.ofName =
      p.components ++ (name :: place).map Component.ofName := by
  rw [components_join hname h, List.append_assoc, List.map_cons, List.singleton_append]

end Join

/-! ### The order of paths -/

theorem compare_append_left {α : Type} [Ord α] [Std.ReflOrd α] (front back back' : List α) :
    compare (front ++ back) (front ++ back') = compare back back' := by
  induction front with
  | nil => rfl
  | cons a front ih =>
    rw [List.cons_append, List.cons_append, List.compare_cons_cons, Std.ReflOrd.compare_self, ih]
    rfl

theorem compare_map_toNat {cs ds : List Char} (h : cs < ds) :
    compare (cs.map Char.toNat) (ds.map Char.toNat) = .lt := by
  induction cs generalizing ds with
  | nil =>
    cases ds with
    | nil => exact absurd h (List.not_lt_nil _)
    | cons d ds => rfl
  | cons c cs ih =>
    cases ds with
    | nil => exact absurd h (List.not_lt_nil _)
    | cons d ds =>
      rw [List.map_cons, List.map_cons, List.compare_cons_cons]
      rcases List.cons_lt_cons_iff.1 h with hlt | ⟨rfl, hlt⟩
      · have hchar : compare c.toNat d.toNat = .lt := Std.compare_eq_lt.2 hlt
        rw [hchar]
        rfl
      · rw [Std.ReflOrd.compare_self, ih hlt]
        rfl

theorem compare_rank_ofName (h : compare name name' = .lt) :
    compare (Component.ofName name).rank (Component.ofName name').rank = .lt := by
  have hstring : name < name' := compareOfLessAndEq_eq_lt.1 h
  have hlt : name.toList < name'.toList := hstring
  rw [Component.ofName, Component.ofName, Component.rank, Component.rank, List.compare_cons_cons,
    Std.ReflOrd.compare_self, compare_map_toNat hlt]
  rfl

/-- **The first name that differs decides** which of two paths comes first. -/
theorem compare_of_components {outer rest rest' : List Component}
    (hp : p.components = outer ++ Component.ofName name :: rest)
    (hq : q.components = outer ++ Component.ofName name' :: rest')
    (h : compare name name' = .lt) : compare p q = .lt := by
  change compare p.rank q.rank = .lt
  rw [rank, rank, hp, hq, List.map_append, List.map_append, compare_append_left, List.map_cons,
    List.map_cons, List.compare_cons_cons, compare_rank_ofName h]
  rfl

end Path

end DtoInterfaces
