import DtoInterfaces.Proofs.FileStore.DotlessPaths

/-!
# The paths around a path

The paths around a path are cut out of its text, but whoever looks one of them up compares
components. So what counts is that the text in front of a component, read as a path by itself, has
the components in front of that one, and no others. It has: cutting a text behind a segment leaves
the segments in front of the cut as they were, and the only segment that is read differently when it
stands alone is the empty one in front, which the root keeps its slash for.

The paths around a path are then the proper prefixes of its components. The one exception is the
empty prefix, which stands for the empty path and encloses relative paths only.

## Main definitions

* `Path.IsWithin` — a path is another one or is enclosed by it.

## Main results

* `Path.components_of_steps` — the text up to the end of a component, as a path.
* `Path.exists_mem_enclosing_iff` — the components of the paths around a path.
* `Path.isWithin_iff`, `Path.IsWithin.trans` — being within a path, by components.
* `Path.isWithin_of_parent?` — what is around a path is its parent or around that.
-/

namespace DtoInterfaces

namespace Path

variable {p q outer around : Path} {cs : List Component}

/-! ### The text up to the end of a component -/

theorem components_of_splitOn {segment : List Char} {segments : List (List Char)}
    (h : p.chars.splitOn '/' = segment :: segments) :
    p.components = (firstStep? segment segments.isEmpty).toList.map Prod.fst ++
      segments.filterMap Component.ofSegment? := by
  rw [components, steps, h]
  simp only [List.map_append, map_fst_stepsAfter]

theorem splitOn_append_flatMap (before : List Char) {segments : List (List Char)}
    (h : ∀ segment ∈ segments, '/' ∉ segment) :
    (before ++ segments.flatMap ('/' :: ·)).splitOn '/' = before.splitOn '/' ++ segments := by
  induction segments generalizing before with
  | nil => simp
  | cons segment segments ih =>
    rw [List.forall_mem_cons] at h
    rw [List.flatMap_cons, ← List.append_assoc, ih _ h.2, List.splitOn_append_cons_self,
      List.splitOn_eq_singleton h.1, List.append_assoc, List.singleton_append]

/-- A component behind the first segment ends behind some of the segments, and those have the
components up to it. -/
theorem exists_segments_of_stepsAfter {before : List Char} {segments : List (List Char)}
    {front back : List (Component × List Char)} {step : Component × List Char}
    (h : stepsAfter before segments = front ++ step :: back) :
    ∃ inner rest, segments = inner ++ rest ∧ inner ≠ [] ∧
      step.2 = before ++ inner.flatMap ('/' :: ·) ∧
      inner.filterMap Component.ofSegment? = front.map Prod.fst ++ [step.1] := by
  induction segments generalizing before front with
  | nil => simp [stepsAfter] at h
  | cons segment segments ih =>
    rw [stepsAfter] at h
    cases hsegment : Component.ofSegment? segment with
    | none =>
      rw [hsegment] at h
      obtain ⟨inner, rest, rfl, -, htext, hinner⟩ := ih h
      refine ⟨segment :: inner, rest, rfl, List.cons_ne_nil _ _, ?_, ?_⟩
      · rw [htext, List.flatMap_cons, List.append_assoc]
      · rw [List.filterMap_cons, hsegment, hinner]
    | some c =>
      rw [hsegment] at h
      cases front with
      | nil =>
        obtain ⟨rfl, -⟩ := List.cons.inj h
        exact ⟨[segment], segments, rfl, List.cons_ne_nil _ _, by simp, by simp [hsegment]⟩
      | cons first front =>
        obtain ⟨rfl, hlater⟩ := List.cons.inj h
        obtain ⟨inner, rest, rfl, -, htext, hinner⟩ := ih hlater
        refine ⟨segment :: inner, rest, rfl, List.cons_ne_nil _ _, ?_, ?_⟩
        · rw [htext, List.flatMap_cons, List.append_assoc]
        · rw [List.filterMap_cons, hsegment, hinner]
          rfl

/-- The first component by itself. -/
theorem components_of_firstStep? {segment : List Char} {isOnly : Bool}
    {step : Component × List Char} (hslash : '/' ∉ segment)
    (h : firstStep? segment isOnly = some step) :
    (⟨String.ofList step.2⟩ : Path).components = [step.1] := by
  by_cases hempty : segment = []
  · subst hempty
    have hroot : step = (.root, ['/']) := by
      cases isOnly with
      | true => cases h
      | false => exact (Option.some.inj h).symm
    rw [hroot]
    decide +kernel
  · -- a segment that is not empty does not care what follows it
    obtain ⟨first, -, -, hfirst⟩ := exists_firstStep? hempty isOnly
    obtain ⟨first', -, -, hfirst'⟩ := exists_firstStep? hempty true
    have hsame : firstStep? segment isOnly = firstStep? segment true := by
      unfold firstStep?
      split
      · exact absurd rfl hempty
      · rfl
      · rfl
    have hstep : step = (first, segment) := by
      rw [hfirst] at h
      exact (Option.some.inj h).symm
    have hsplit : (⟨String.ofList segment⟩ : Path).chars.splitOn '/' = [segment] := by
      rw [chars, String.toList_ofList, List.splitOn_eq_singleton hslash]
    rw [hstep, components_of_splitOn hsplit, List.isEmpty_nil, ← hsame, hfirst]
    rfl

/-- A component behind the first segment, and the text up to its end as a path. -/
theorem components_of_stepsAfter {segment : List Char} {segments : List (List Char)}
    {front back : List (Component × List Char)} {step : Component × List Char}
    (hslash : ∀ part ∈ segment :: segments, '/' ∉ part)
    (h : stepsAfter segment segments = front ++ step :: back) :
    (⟨String.ofList step.2⟩ : Path).components =
      (firstStep? segment segments.isEmpty).toList.map Prod.fst ++ (front.map Prod.fst ++ [step.1]) := by
  rw [List.forall_mem_cons] at hslash
  obtain ⟨inner, rest, hsegments, hne, htext, hinner⟩ := exists_segments_of_stepsAfter h
  have hsplit : (⟨String.ofList step.2⟩ : Path).chars.splitOn '/' = segment :: inner := by
    rw [chars, String.toList_ofList, htext, splitOn_append_flatMap, List.splitOn_eq_singleton hslash.1,
      List.singleton_append]
    intro part hpart
    exact hslash.2 part (hsegments ▸ List.mem_append_left rest hpart)
  have hmore : segments.isEmpty = inner.isEmpty := by
    rw [hsegments]
    cases inner with
    | nil => exact absurd rfl hne
    | cons part inner => rfl
  rw [components_of_splitOn hsplit, hinner, hmore]

/-- **The text up to the end of a component** is a path with the components up to that one. -/
theorem components_of_steps {front back : List (Component × List Char)}
    {step : Component × List Char} (h : p.steps = front ++ step :: back) :
    (⟨String.ofList step.2⟩ : Path).components = front.map Prod.fst ++ [step.1] := by
  obtain ⟨segment, segments, hsplit⟩ :=
    List.exists_cons_of_ne_nil (List.splitOn_ne_nil '/' p.chars)
  have hslash : ∀ part ∈ segment :: segments, '/' ∉ part := by
    intro part hpart
    rw [← hsplit] at hpart
    exact separator_not_mem_of_mem_splitOn hpart
  rw [steps, hsplit] at h
  simp only at h
  cases hfirst : firstStep? segment segments.isEmpty with
  | none =>
    rw [hfirst] at h
    rw [components_of_stepsAfter hslash h, hfirst]
    rfl
  | some first =>
    rw [hfirst] at h
    cases front with
    | nil =>
      obtain ⟨rfl, -⟩ := List.cons.inj h
      exact components_of_firstStep? (hslash _ List.mem_cons_self) hfirst
    | cons first' front =>
      obtain ⟨rfl, hlater⟩ := List.cons.inj h
      rw [components_of_stepsAfter hslash hlater, hfirst]
      rfl

/-! ### Enclosing paths -/

theorem components_eq_nil_iff : p.components = [] ↔ p = ⟨""⟩ := by
  constructor
  · intro h
    have hempty : p.isEmpty = true := by
      by_contra hfull
      exact components_ne_nil (Bool.eq_false_iff.2 hfull) h
    exact congrArg Path.mk (String.isEmpty_iff.1 hempty)
  · rintro rfl
    decide +kernel

theorem isEmpty_iff : p.isEmpty = true ↔ p.components = [] := by
  rw [components_eq_nil_iff, isEmpty, String.isEmpty_iff]
  constructor
  · exact congrArg Path.mk
  · rintro rfl
    rfl

/-- The paths around a path, by its steps: the texts up to the ends of its components except the
last one, the longest first, and the empty path at the end if the path is relative. -/
theorem enclosing_of_steps {earlier : List (Component × List Char)} {last : Component × List Char}
    (h : p.steps = earlier ++ [last]) :
    p.enclosing = earlier.reverse.map (fun step => ⟨String.ofList step.2⟩) ++
      if p.isAbsolute then [] else [⟨""⟩] := by
  rw [enclosing, h, List.reverse_concat]

theorem enclosing_of_components_eq_nil (h : p.components = []) : p.enclosing = [] := by
  rw [enclosing, List.map_eq_nil_iff.1 h]
  rfl

/-- The paths around a path are the texts up to the ends of the components that have another one
behind them, and the empty path if the path is relative. -/
theorem mem_enclosing_iff : around ∈ p.enclosing ↔
    (∃ front step later, p.steps = front ++ step :: later ∧ later ≠ [] ∧
      around = ⟨String.ofList step.2⟩) ∨
    p.steps ≠ [] ∧ p.isAbsolute = false ∧ around = ⟨""⟩ := by
  rcases List.eq_nil_or_concat' p.steps with hnone | ⟨earlier, last, hsteps⟩
  · rw [enclosing, hnone]
    simp
  · rw [enclosing_of_steps hsteps, hsteps, List.mem_append, List.mem_map]
    refine or_congr ⟨?_, ?_⟩ ?_
    · rintro ⟨step, hstep, rfl⟩
      obtain ⟨front, back, rfl⟩ := List.append_of_mem (List.mem_reverse.1 hstep)
      exact ⟨front, step, back ++ [last], by simp, by simp, rfl⟩
    · rintro ⟨front, step, later, hcut, hmore, rfl⟩
      obtain ⟨back, last', rfl⟩ := (List.eq_nil_or_concat' later).resolve_left hmore
      rw [← List.cons_append, ← List.append_assoc] at hcut
      obtain ⟨rfl, -⟩ := List.append_inj' hcut rfl
      exact ⟨step, by simp, rfl⟩
    · cases p.isAbsolute <;> simp

/-- **The components of the paths around a path** are the proper prefixes of its own, except that
the empty path encloses no absolute path. -/
theorem exists_mem_enclosing_iff : (∃ around ∈ p.enclosing, around.components = cs) ↔
    cs <+: p.components ∧ cs ≠ p.components ∧ (cs = [] → p.isAbsolute = false) := by
  have hempty : (⟨""⟩ : Path).components = [] := components_eq_nil_iff.2 rfl
  simp only [mem_enclosing_iff]
  constructor
  · rintro ⟨around, ⟨front, step, later, hcut, hmore, rfl⟩ | ⟨hsome, hrelative, rfl⟩, rfl⟩
    · have hcomponents : p.components = (front.map Prod.fst ++ [step.1]) ++ later.map Prod.fst := by
        rw [components, hcut]
        simp
      rw [components_of_steps hcut, hcomponents]
      refine ⟨List.prefix_append _ _, ?_, by simp⟩
      simpa using hmore
    · rw [hempty]
      exact ⟨List.nil_prefix, fun hnil => hsome (List.map_eq_nil_iff.1 hnil.symm), fun _ => hrelative⟩
  · rintro ⟨⟨rest, hrest⟩, hproper, hrelative⟩
    rcases List.eq_nil_or_concat' cs with rfl | ⟨cs, c, rfl⟩
    · refine ⟨⟨""⟩, .inr ⟨fun hnone => hproper ?_, hrelative rfl, rfl⟩, hempty⟩
      rw [components, hnone, List.map_nil]
    · rw [List.append_assoc, List.singleton_append, components] at hrest
      obtain ⟨front, behind, hcut, rfl, hbehind⟩ := List.map_eq_append_iff.1 hrest.symm
      obtain ⟨step, later, rfl, rfl, rfl⟩ := List.map_eq_cons_iff.1 hbehind
      refine ⟨_, .inl ⟨front, step, later, hcut, ?_, rfl⟩, components_of_steps hcut⟩
      rintro rfl
      exact hproper (by rw [components, hcut, List.map_append, List.map_singleton])

/-- The paths within which a path is, by their components: the prefixes of its own, except that the
empty path holds no absolute path. -/
theorem exists_mem_ancestors_iff : (∃ around ∈ p.ancestors, around.components = cs) ↔
    cs <+: p.components ∧ (cs = [] → p.isAbsolute = false) := by
  simp only [ancestors, List.mem_cons, exists_eq_or_imp, exists_mem_enclosing_iff]
  constructor
  · rintro (rfl | ⟨hfront, -, hrelative⟩)
    · refine ⟨List.prefix_refl _, fun hnil => ?_⟩
      rw [components_eq_nil_iff.1 hnil]
      rfl
    · exact ⟨hfront, hrelative⟩
  · rintro ⟨hfront, hrelative⟩
    by_cases hsame : p.components = cs
    · exact .inl hsame
    · exact .inr ⟨hfront, Ne.symm hsame, hrelative⟩

/-! ### Being within a path -/

/-- A path is another one, in some spelling, or that one is around it. -/
def IsWithin (p outer : Path) : Prop := ∃ around ∈ p.ancestors, around.components = outer.components

instance (p outer : Path) : Decidable (p.IsWithin outer) :=
  inferInstanceAs (Decidable (∃ around ∈ p.ancestors, around.components = outer.components))

theorem isAbsolute_congr (h : p.components = q.components) : p.isAbsolute = q.isAbsolute := by
  rw [Bool.eq_iff_iff, ← head?_components_eq_root_iff, ← head?_components_eq_root_iff, h]

/-- **Being within a path, by components.** The empty path has none, so it has to be asked whether
the two paths start at the same place. -/
theorem isWithin_iff : p.IsWithin outer ↔
    outer.components <+: p.components ∧ p.isAbsolute = outer.isAbsolute := by
  rw [IsWithin, exists_mem_ancestors_iff, and_congr_right_iff]
  intro hfront
  by_cases hnil : outer.components = []
  · have hrelative : outer.isAbsolute = false := by
      rw [components_eq_nil_iff.1 hnil]
      rfl
    rw [hrelative, imp_iff_right hnil]
  · obtain ⟨first, rest, hfirst⟩ := List.exists_cons_of_ne_nil hnil
    obtain ⟨later, hlater⟩ := hfront
    have hhead : p.components.head? = outer.components.head? := by
      rw [← hlater, hfirst]
      rfl
    have hsame : p.isAbsolute = outer.isAbsolute := by
      rw [Bool.eq_iff_iff, ← head?_components_eq_root_iff, hhead, head?_components_eq_root_iff]
    exact iff_of_true (fun h => absurd h hnil) hsame

theorem isWithin_congr (h : p.components = q.components) : p.IsWithin outer ↔ q.IsWithin outer := by
  rw [isWithin_iff, isWithin_iff, h, isAbsolute_congr h]

/-- **What is within a path that is within another one** is within that other one. -/
theorem IsWithin.trans (h : p.IsWithin q) (h' : q.IsWithin outer) : p.IsWithin outer := by
  obtain ⟨hfront, hstart⟩ := isWithin_iff.1 h
  obtain ⟨hfront', hstart'⟩ := isWithin_iff.1 h'
  exact isWithin_iff.2 ⟨hfront'.trans hfront, hstart.trans hstart'⟩

theorem isWithin_of_mem (h : around ∈ p.ancestors) : p.IsWithin around := ⟨around, h, rfl⟩

/-- What is around a path that encloses another one encloses that one as well, in some spelling. -/
theorem IsWithin.exists_mem_enclosing (h : q.IsWithin around) (hq : q ∈ p.enclosing) :
    ∃ spelled ∈ p.enclosing, spelled.components = around.components := by
  obtain ⟨hfront, hstart⟩ := isWithin_iff.1 h
  obtain ⟨hfront', hproper, -⟩ := exists_mem_enclosing_iff.1 ⟨q, hq, rfl⟩
  refine exists_mem_enclosing_iff.2 ⟨hfront.trans hfront', fun hsame => ?_, fun hnil => ?_⟩
  · -- otherwise all three have the same components
    rw [hsame] at hfront
    exact hproper (hfront'.eq_of_length_le hfront.length_le)
  · have hp : p.IsWithin q := isWithin_of_mem (List.mem_cons_of_mem _ hq)
    rw [(isWithin_iff.1 hp).2, hstart, components_eq_nil_iff.1 hnil]
    rfl

/-! ### The parent -/

/-- The parent of a path has all of its components except the last one. -/
theorem components_of_parent? (h : p.parent? = some q) :
    p.components ≠ [] ∧ q.components = p.components.dropLast := by
  rcases List.eq_nil_or_concat' p.steps with hnone | ⟨earlier, last, hsteps⟩
  · rw [parent?, enclosing_of_components_eq_nil (congrArg (List.map Prod.fst) hnone)] at h
    cases h
  · have hcomponents : p.components = earlier.map Prod.fst ++ [last.1] := by
      rw [components, hsteps, List.map_append, List.map_singleton]
    refine ⟨by simp [hcomponents], ?_⟩
    rw [hcomponents, List.dropLast_concat]
    rw [parent?, enclosing_of_steps hsteps] at h
    rcases List.eq_nil_or_concat' earlier with rfl | ⟨front, step, rfl⟩
    · split at h
      · cases h
      · cases h
        exact components_eq_nil_iff.2 rfl
    · rw [List.reverse_concat] at h
      cases h
      rw [List.map_append, List.map_singleton]
      have hcut : p.steps = front ++ step :: [last] := by
        rw [hsteps, List.append_assoc]
        rfl
      exact components_of_steps hcut

/-- **What is around a path** is its parent, or is around that, in some spelling. -/
theorem isWithin_of_parent? (hparent : p.parent? = some q) (h : around ∈ p.enclosing) :
    q.IsWithin around := by
  obtain ⟨hne, hq⟩ := components_of_parent? hparent
  obtain ⟨hfront, hproper, -⟩ := exists_mem_enclosing_iff.1 ⟨around, h, rfl⟩
  have hlast : p.components = q.components ++ [p.components.getLast hne] := by
    rw [hq, List.dropLast_concat_getLast]
  rw [hlast, List.prefix_concat_iff, ← hlast] at hfront
  have hstart : p.isAbsolute = q.isAbsolute :=
    (isWithin_iff.1 (isWithin_of_mem (List.mem_cons_of_mem _ (List.mem_of_head? hparent)))).2
  have hstart' : p.isAbsolute = around.isAbsolute :=
    (isWithin_iff.1 (isWithin_of_mem (List.mem_cons_of_mem _ h))).2
  exact isWithin_iff.2 ⟨hfront.resolve_left hproper, hstart.symm.trans hstart'⟩

end Path

end DtoInterfaces
