import DtoInterfaces.Config
import DtoInterfaces.Proofs.FileStore.DotlessPaths
import DtoInterfaces.Proofs.Text.Endings

/-!
# Where classes are looked for

The directory of the classes follows from the namespace. Its segments are directories, one below the
other, below the directory of the project. Projects keep the namespace `App` in a directory `app`,
and so the text `App/` is written in lower case.

This is done wherever that text occurs, and it occurs at the end of every segment that ends in `App`
and has another one behind it: `MyApp\DTO` is looked for in `Myapp/DTO`, and `Domain\App\DTO` in
`Domain/app/DTO`. Only the leading `App` is meant. The two readings agree exactly for the namespaces
in which no other segment in front of another one ends in `App`.

## Main definitions

* `Path.below` — directories one below the other.
* `Config.IsSegment` — the segments of namespaces.
* `Config.loweredSegments` — the directories that a namespace leads to.
* `Config.leadingLowered` — the directories where only a leading `App` is written in lower case.

## Main results

* `Path.join_intercalate` — a path of several segments is taken below another one by one.
* `Config.sourcePath_eq_below` — the directories of a namespace.
* `Config.sourcePath_segments` — when only a leading `App` is written in lower case.
-/

namespace DtoInterfaces

/-! ### Segments of paths -/

namespace Path

variable {s t : String}

/-- A path that starts with a segment does not start at the root. -/
theorem IsSegment.head?_intercalate_ne (h : IsSegment s) (later : List String) :
    ("/".intercalate (s :: later)).toList.head? ≠ some '/' := by
  cases later with
  | nil =>
    rw [String.intercalate_singleton]
    exact h.head?_ne
  | cons t later =>
    rw [String.intercalate_cons_cons, String.toList_append, String.toList_append, List.append_assoc,
      List.head?_append_of_ne_nil _ h.toList_ne_nil]
    exact h.head?_ne

/-- The directory that is reached by going into the given directories, one after the other. -/
def below (p : Path) (segments : List String) : Path := segments.foldl (fun p s => p.join ⟨s⟩) p

theorem eq_of_join_eq {p : Path} (hs : s.toList.head? ≠ some '/') (ht : t.toList.head? ≠ some '/')
    (h : p.join ⟨s⟩ = p.join ⟨t⟩) : s = t := by
  have hchars := congrArg chars h
  rw [chars_join hs, chars_join ht] at hchars
  exact String.toList_inj.1 (List.append_cancel_left hchars)

/-- A segment and what is below it can be taken below a path one after the other. -/
theorem join_join (p : Path) (hs : IsSegment s) (ht : t.toList.head? ≠ some '/') :
    (p.join ⟨s⟩).join ⟨t⟩ = p.join ⟨s ++ "/" ++ t⟩ := by
  have hboth : (s ++ "/" ++ t).toList = s.toList ++ '/' :: t.toList := by simp
  have hhead : (s ++ "/" ++ t).toList.head? ≠ some '/' := by
    rw [hboth, List.head?_append_of_ne_nil _ hs.toList_ne_nil]
    exact hs.head?_ne
  -- the path in between ends in the segment, so a slash is put behind it
  have hempty : (p.join ⟨s⟩).isEmpty = false := by
    have hne : (p.join ⟨s⟩).chars ≠ [] := by
      rw [chars_join hs.head?_ne]
      exact List.append_ne_nil_of_right_ne_nil _ hs.toList_ne_nil
    simpa [isEmpty, chars] using hne
  have hlast : (p.join ⟨s⟩).chars.getLast? ≠ some '/' := by
    rw [chars_join hs.head?_ne, List.getLast?_append_of_ne_nil _ hs.toList_ne_nil]
    exact hs.getLast?_ne
  refine eq_of_chars_eq ?_
  rw [chars_join ht, chars_join hhead, hempty, Bool.false_or, if_neg (by simpa using hlast),
    chars_join hs.head?_ne, hboth]
  simp

/-- **A path of several segments** is taken below another one segment by segment. -/
theorem join_intercalate (p : Path) {segments : List String} (hne : segments ≠ [])
    (h : ∀ s ∈ segments, IsSegment s) : p.join ⟨"/".intercalate segments⟩ = p.below segments := by
  induction segments generalizing p with
  | nil => exact absurd rfl hne
  | cons s later ih =>
    cases later with
    | nil =>
      rw [String.intercalate_singleton]
      rfl
    | cons s' later =>
      have hs : IsSegment s := h s List.mem_cons_self
      have hs' : IsSegment s' := h s' (List.mem_cons_of_mem s List.mem_cons_self)
      rw [String.intercalate_cons_cons, ← join_join p hs (hs'.head?_intercalate_ne later),
        ih _ (List.cons_ne_nil _ _) fun t ht => h t (List.mem_cons_of_mem s ht)]
      rfl

theorem splitOn_intercalate {segments : List String} (hne : segments ≠ [])
    (h : ∀ s ∈ segments, IsSegment s) :
    ("/".intercalate segments).toList.splitOn '/' = segments.map String.toList := by
  have hslash : "/".toList = ['/'] := rfl
  rw [String.toList_intercalate, hslash]
  refine List.splitOn_intercalate '/' (fun cs hcs => ?_) (by simpa using hne)
  obtain ⟨s, hs, rfl⟩ := List.mem_map.1 hcs
  exact (h s hs).noSlash

/-- Directories one below the other can be told from the whole path. -/
theorem eq_of_below_eq {p : Path} {segments segments' : List String} (hne : segments ≠ [])
    (hne' : segments' ≠ []) (h : ∀ s ∈ segments, IsSegment s) (h' : ∀ s ∈ segments', IsSegment s)
    (hbelow : p.below segments = p.below segments') : segments = segments' := by
  have hhead : ∀ {segments : List String}, segments ≠ [] → (∀ s ∈ segments, IsSegment s) →
      ("/".intercalate segments).toList.head? ≠ some '/' := by
    intro segments hne h
    obtain ⟨s, later, rfl⟩ := List.exists_cons_of_ne_nil hne
    exact (h s List.mem_cons_self).head?_intercalate_ne later
  rw [← join_intercalate p hne h, ← join_intercalate p hne' h'] at hbelow
  have htext := eq_of_join_eq (hhead hne h) (hhead hne' h') hbelow
  have hparts : segments.map String.toList = segments'.map String.toList := by
    rw [← splitOn_intercalate hne h, ← splitOn_intercalate hne' h', htext]
  exact (List.map_inj_right fun _ _ => String.toList_inj.1).1 hparts

end Path

/-! ### Segments of namespaces -/

namespace Config

variable {segment : String} {segments : List String}

/-- A text that is a single segment of a namespace, and of a path as well. -/
structure IsSegment (segment : String) : Prop extends Path.IsSegment segment where
  noSeparator : ClassName.separator ∉ segment.toList

instance (segment : String) : Decidable (IsSegment segment) :=
  decidable_of_iff
    ((segment ≠ "" ∧ '/' ∉ segment.toList) ∧ ClassName.separator ∉ segment.toList)
    ⟨fun h => ⟨⟨h.1.1, h.1.2⟩, h.2⟩, fun h => ⟨⟨h.ne_empty, h.noSlash⟩, h.noSeparator⟩⟩

/-- The name that is written in lower case, and how it is written then. -/
def appName : List Char := ['A', 'p', 'p']

/-- The name in lower case. -/
def appDirectory : List Char := ['a', 'p', 'p']

/-- A directory whose name ends in `App`, with that ending in lower case; any other directory as it
is. -/
def lowered (segment : String) : String :=
  String.ofList (Text.replaceEnd appName appDirectory segment.toList)

/-- The directories of a namespace: those in front of others are written in lower case where they
end in `App`. -/
def loweredSegments : List String → List String
  | [] => []
  | [segment] => [segment]
  | segment :: later => lowered segment :: loweredSegments later

/-- The directories of a namespace where only a leading `App` is written in lower case. -/
def leadingLowered : List String → List String
  | [] => []
  | [segment] => [segment]
  | segment :: later => (if segment = "App" then "app" else segment) :: later

/-! ### Endings in lower case -/

theorem lowered_of_suffix {front : List Char} (h : segment.toList = front ++ appName) :
    lowered segment = String.ofList (front ++ appDirectory) := by
  rw [lowered, h, Text.replaceEnd_append]

theorem lowered_of_not_suffix (h : ¬ appName <:+ segment.toList) : lowered segment = segment := by
  rw [lowered, Text.replaceEnd_of_not_suffix h, String.ofList_toList]

theorem lowered_eq_self_iff : lowered segment = segment ↔ ¬ appName <:+ segment.toList := by
  refine ⟨?_, lowered_of_not_suffix⟩
  rintro hsame ⟨front, hfront⟩
  rw [lowered_of_suffix hfront.symm, ← String.toList_inj, String.toList_ofList, ← hfront] at hsame
  exact absurd (List.append_cancel_left hsame) (by decide)

theorem lowered_eq_leading_iff : lowered segment = (if segment = "App" then "app" else segment) ↔
    (appName <:+ segment.toList → segment = "App") := by
  by_cases happ : segment = "App"
  · rw [if_pos happ, happ]
    exact ⟨fun _ _ => rfl, fun _ => rfl⟩
  · rw [if_neg happ, lowered_eq_self_iff]
    exact ⟨fun hend h => absurd h hend, fun h hend => happ (h hend)⟩

/-- A segment in lower case is a segment. -/
theorem IsSegment.lowered (h : IsSegment segment) : Path.IsSegment (lowered segment) := by
  by_cases hend : appName <:+ segment.toList
  · obtain ⟨front, hfront⟩ := hend
    rw [lowered_of_suffix hfront.symm]
    refine ⟨fun hnil => ?_, ?_⟩
    · rw [← String.toList_inj, String.toList_ofList] at hnil
      exact absurd (List.append_eq_nil_iff.1 hnil).2 (by decide)
    · rw [String.toList_ofList, List.mem_append, not_or]
      refine ⟨fun hmem => h.noSlash ?_, by decide⟩
      rw [← hfront]
      exact List.mem_append_left _ hmem
  · rw [lowered_of_not_suffix hend]
    exact h.toIsSegment

/-! ### From the namespace to its directories -/

theorem loweredSegments_ne_nil (hne : segments ≠ []) : loweredSegments segments ≠ [] := by
  obtain ⟨segment, later, rfl⟩ := List.exists_cons_of_ne_nil hne
  cases later <;> exact List.cons_ne_nil _ _

theorem leadingLowered_ne_nil (hne : segments ≠ []) : leadingLowered segments ≠ [] := by
  obtain ⟨segment, later, rfl⟩ := List.exists_cons_of_ne_nil hne
  cases later <;> exact List.cons_ne_nil _ _

theorem isSegment_of_mem_loweredSegments (h : ∀ s ∈ segments, IsSegment s) :
    ∀ s ∈ loweredSegments segments, Path.IsSegment s := by
  fun_induction loweredSegments segments with
  | case1 => exact fun s hs => absurd hs List.not_mem_nil
  | case2 segment => exact fun s hs => (h s hs).toIsSegment
  | case3 segment later hlater ih =>
    intro s hs
    rcases List.mem_cons.1 hs with rfl | hs
    · exact (h segment List.mem_cons_self).lowered
    · exact ih (fun t ht => h t (List.mem_cons_of_mem _ ht)) s hs

theorem isSegment_of_mem_leadingLowered (h : ∀ s ∈ segments, IsSegment s) :
    ∀ s ∈ leadingLowered segments, Path.IsSegment s := by
  fun_cases leadingLowered segments with
  | case1 => exact fun s hs => absurd hs List.not_mem_nil
  | case2 segment => exact fun s hs => (h s hs).toIsSegment
  | case3 segment later hlater =>
    intro s hs
    rcases List.mem_cons.1 hs with rfl | hs
    · split
      · exact ⟨by decide, by decide +kernel⟩
      · exact (h segment List.mem_cons_self).toIsSegment
    · exact (h s (List.mem_cons_of_mem _ hs)).toIsSegment

/-- Separators that become slashes leave the segments as they are. -/
theorem map_separator_intercalate (h : ∀ s ∈ segments, IsSegment s) :
    ("\\".intercalate segments).toList.map (fun c => if c = ClassName.separator then '/' else c) =
      ("/".intercalate segments).toList := by
  have hself : ∀ s ∈ segments,
      s.toList.map (fun c => if c = ClassName.separator then '/' else c) = s.toList := by
    intro s hs
    rw [List.map_congr_left (g := id), List.map_id]
    intro c hc
    have hne : c ≠ ClassName.separator := fun hsep => (h s hs).noSeparator (hsep ▸ hc)
    exact if_neg hne
  induction segments with
  | nil => rfl
  | cons s later ih =>
    have hs := hself s List.mem_cons_self
    cases later with
    | nil => rw [String.intercalate_singleton, String.intercalate_singleton, hs]
    | cons s' later =>
      have hlater := ih (fun t ht => h t (List.mem_cons_of_mem s ht))
        fun t ht => hself t (List.mem_cons_of_mem s ht)
      simp only [String.intercalate_cons_cons, String.toList_append, List.map_append, hs, hlater]
      rfl

/-- Every segment in front of a slash is replaced by itself, and the last one stays. -/
theorem replaceAll_intercalate (h : ∀ s ∈ segments, IsSegment s) :
    Text.replaceAll (appName ++ ['/']) (appDirectory ++ ['/']) ("/".intercalate segments).toList =
      ("/".intercalate (loweredSegments segments)).toList := by
  fun_induction loweredSegments segments with
  | case1 => rw [String.intercalate_nil, String.toList_empty, Text.replaceAll]
  | case2 segment =>
    rw [String.intercalate_singleton]
    refine Text.replaceAll_eq_self fun hinside => ?_
    exact (h segment List.mem_cons_self).noSlash (hinside.subset (by simp))
  | case3 segment later hlater ih =>
    have hslash : "/".toList = ['/'] := rfl
    have hne : later ≠ [] := fun hnil => hlater hnil
    rw [String.intercalate_cons_of_ne_nil hne,
      String.intercalate_cons_of_ne_nil (loweredSegments_ne_nil hne)]
    simp only [String.toList_append, hslash, List.append_assoc, List.singleton_append]
    rw [Text.replaceAll_append_cons (by decide) (h segment List.mem_cons_self).noSlash,
      ih fun t ht => h t (List.mem_cons_of_mem segment ht), lowered, String.toList_ofList]

theorem directoryOfNamespace_eq (h : ∀ s ∈ segments, IsSegment s) :
    directoryOfNamespace ("\\".intercalate segments).toList =
      ("/".intercalate (loweredSegments segments)).toList := by
  have hold : "App/".toList = appName ++ ['/'] := rfl
  have hnew : "app/".toList = appDirectory ++ ['/'] := rfl
  rw [directoryOfNamespace, map_separator_intercalate h, hold, hnew, replaceAll_intercalate h]

/-- **The directories of a namespace.** Classes are looked for below the project, in the directories
of the segments. -/
theorem sourcePath_eq_below {c : Config} (hne : segments ≠ []) (h : ∀ s ∈ segments, IsSegment s)
    (hnamespace : c.classNamespace = "\\".intercalate segments) (project : Path) :
    c.sourcePath project = project.below (loweredSegments segments) := by
  rw [sourcePath, hnamespace, directoryOfNamespace_eq h, String.ofList_toList]
  exact Path.join_intercalate project (loweredSegments_ne_nil hne)
    (isSegment_of_mem_loweredSegments h)

/-! ### The leading segment -/

theorem loweredSegments_eq_self_iff : loweredSegments segments = segments ↔
    ∀ s ∈ segments.dropLast, ¬ appName <:+ s.toList := by
  fun_induction loweredSegments segments with
  | case1 => simp
  | case2 segment => simp
  | case3 segment later hlater ih =>
    have hne : later ≠ [] := fun hnil => hlater hnil
    rw [List.cons.injEq, lowered_eq_self_iff, ih, List.dropLast_cons_of_ne_nil hne,
      List.forall_mem_cons]

/-- **Only a leading `App` is written in lower case** exactly if the first segment, where others
follow, does not end in `App` or is that name, and no later one in front of another one ends in
it. -/
theorem loweredSegments_eq_leadingLowered_iff :
    loweredSegments segments = leadingLowered segments ↔
      (∀ first ∈ segments.dropLast.head?, appName <:+ first.toList → first = "App") ∧
      ∀ s ∈ segments.dropLast.tail, ¬ appName <:+ s.toList := by
  fun_cases loweredSegments segments with
  | case1 => simp [leadingLowered]
  | case2 segment => simp [leadingLowered]
  | case3 segment later hlater =>
    have hne : later ≠ [] := fun hnil => hlater hnil
    rw [leadingLowered, List.cons.injEq, lowered_eq_leading_iff, loweredSegments_eq_self_iff,
      List.dropLast_cons_of_ne_nil hne, List.head?_cons, List.tail_cons]
    · simp
    · exact hlater

/-- **Where classes are looked for.** The segments of the namespace are directories below the
project, in their order; those in front of others have an ending `App` in lower case, and the last
one is kept. This is what is meant, a leading `App` in lower case and everything else as it is,
exactly if no other segment in front of another one ends in `App`. -/
theorem sourcePath_segments (c : Config) (project : Path) (hne : segments ≠ [])
    (hsegments : ∀ s ∈ segments, IsSegment s)
    (hnamespace : c.classNamespace = "\\".intercalate segments) :
    c.sourcePath project = project.below (loweredSegments segments) ∧
    (c.sourcePath project = project.below (leadingLowered segments) ↔
      (∀ first ∈ segments.dropLast.head?, appName <:+ first.toList → first = "App") ∧
      ∀ s ∈ segments.dropLast.tail, ¬ appName <:+ s.toList) := by
  have hpath := sourcePath_eq_below hne hsegments hnamespace project
  refine ⟨hpath, ?_⟩
  rw [hpath, ← loweredSegments_eq_leadingLowered_iff]
  refine ⟨fun hbelow => ?_, fun hsame => by rw [hsame]⟩
  exact Path.eq_of_below_eq (loweredSegments_ne_nil hne) (leadingLowered_ne_nil hne)
    (isSegment_of_mem_loweredSegments hsegments) (isSegment_of_mem_leadingLowered hsegments) hbelow

/-- The usual settings with another namespace. -/
def withNamespace (name : String) : Config := { standard with classNamespace := name }

/-- In `App\MyDomain\App` the leading name alone is written in lower case, and the last segment is
kept. -/
theorem sourcePath_segments_leadingApp :
    (withNamespace "App\\MyDomain\\App").sourcePath ⟨"/srv"⟩ = ⟨"/srv/app/MyDomain/App"⟩ ∧
    (withNamespace "App\\MyDomain\\App").sourcePath ⟨"/srv"⟩ =
      Path.below ⟨"/srv"⟩ (leadingLowered ["App", "MyDomain", "App"]) := by
  have hsegments : ∀ s ∈ ["App", "MyDomain", "App"], IsSegment s := by decide +kernel
  obtain ⟨hpath, hmeant⟩ := sourcePath_segments (withNamespace "App\\MyDomain\\App") ⟨"/srv"⟩
    (List.cons_ne_nil _ _) hsegments (by decide +kernel)
  refine ⟨hpath.trans (by decide +kernel), hmeant.2 ⟨fun first hfirst _ => ?_, ?_⟩⟩
  · exact (Option.some.inj hfirst).symm
  · decide +kernel

/-- **A directory that is not the one of the namespace.** The namespace `MyApp` is not `App`, and
yet its classes are looked for in `Myapp`. -/
theorem sourcePath_myApp :
    (withNamespace "MyApp\\DTO").sourcePath ⟨"/srv"⟩ = ⟨"/srv/Myapp/DTO"⟩ ∧
    Path.below ⟨"/srv"⟩ (leadingLowered ["MyApp", "DTO"]) = ⟨"/srv/MyApp/DTO"⟩ ∧
    (withNamespace "MyApp\\DTO").sourcePath ⟨"/srv"⟩ ≠
      Path.below ⟨"/srv"⟩ (leadingLowered ["MyApp", "DTO"]) := by
  have hsegments : ∀ s ∈ ["MyApp", "DTO"], IsSegment s := by decide +kernel
  have hpath := sourcePath_eq_below (c := withNamespace "MyApp\\DTO") (List.cons_ne_nil _ _)
    hsegments (by decide +kernel) ⟨"/srv"⟩
  have hmeant : Path.below ⟨"/srv"⟩ (leadingLowered ["MyApp", "DTO"]) = ⟨"/srv/MyApp/DTO"⟩ := by
    decide +kernel
  have hwritten : (withNamespace "MyApp\\DTO").sourcePath ⟨"/srv"⟩ = ⟨"/srv/Myapp/DTO"⟩ :=
    hpath.trans (by decide +kernel)
  refine ⟨hwritten, hmeant, ?_⟩
  rw [hwritten, hmeant]
  decide

end Config

end DtoInterfaces
