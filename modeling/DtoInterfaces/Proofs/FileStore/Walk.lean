import DtoInterfaces.Proofs.FileStore.DotlessPaths
import DtoInterfaces.Proofs.SortedMap

/-!
# Walking through a tree of files

The files of a tree are listed depth first, and the entries of every directory by name. The list
holds every file of the tree that can be got at, under the path where the walk has started with the
names that lead to the file behind it, and it is strictly increasing in the order of paths.

## Why the list is sorted

Two files part at the first name in which their places differ, which is where the walk went into
two entries of one directory. It went into the one with the smaller name first, and listed all that
is in there before it went on. The order of paths looks at the same two names and at nothing behind
them. So `a/x` comes before `a-b` although the text does not, since a slash is larger than a dash.

Names are compared character by character, which is the order of the bytes that encode them.

## Main definitions

* `FileTree.IsProper` — trees as file systems keep them.
* `FileTree.IsOpen` — every directory of the tree can be listed.

## Main results

* `FileTree.exists_place_of_mem`, `FileTree.exists_mem_of_get?` — what is listed.
* `FileTree.pairwise_filesBelow` — the list is strictly increasing.
-/

namespace DtoInterfaces

/-! ### Sorted entries -/

/-- What is found among sorted entries is what is there. -/
theorem findEntry_eq_some_iff {κ α : Type} [Ord κ] [Std.LawfulEqOrd κ] {key : κ} {value : α}
    {entries : List (κ × α)} (hsorted : entries.Pairwise fun e f => compare e.1 f.1 = .lt) :
    findEntry key entries = some value ↔ (key, value) ∈ entries := by
  induction entries with
  | nil => simp [findEntry]
  | cons entry entries ih =>
    obtain ⟨key', value'⟩ := entry
    rw [List.pairwise_cons] at hsorted
    rw [findEntry, List.mem_cons, ← ih hsorted.2, Prod.mk.injEq]
    by_cases hsame : key = key'
    · subst hsame
      -- the key does not come a second time
      have hlater : findEntry key entries ≠ some value := by
        intro hfound
        have hlt : compare key key = .lt := hsorted.1 _ ((ih hsorted.2).1 hfound)
        rw [Std.LawfulEqOrd.compare_eq_iff_eq.2 rfl] at hlt
        cases hlt
      rw [if_pos (Std.LawfulEqOrd.compare_eq_iff_eq.2 rfl)]
      simp [hlater, eq_comm]
    · rw [if_neg (mt Std.LawfulEqOrd.compare_eq_iff_eq.1 hsame)]
      simp [hsame]

namespace FileTree

variable {t : FileTree} {p q : Path} {place : List String} {contents : ByteArray}

/-- A tree as a file system keeps it: every directory has its entries in the order of their names,
under names that they can have. -/
inductive IsProper : FileTree → Prop
  | file (contents : ByteArray) : IsProper (.file contents)
  | directory {entries : List (String × FileTree)}
      (sorted : entries.Pairwise fun e f => compare e.1 f.1 = .lt)
      (names : ∀ e ∈ entries, Path.IsName e.1)
      (trees : ∀ e ∈ entries, IsProper e.2) : IsProper (.directory entries)

/-- Every directory of a tree that stands at a path can be listed. -/
inductive IsOpen : Path → FileTree → Prop
  | file (p : Path) (contents : ByteArray) : IsOpen p (.file contents)
  | directory {p : Path} {entries : List (String × FileTree)}
      (listed : Disk.refusal? p = none)
      (trees : ∀ e ∈ entries, IsOpen (p.join ⟨e.1⟩) e.2) : IsOpen p (.directory entries)

/-! ### What is listed -/

theorem filesOfEntries_eq (p : Path) (entries : List (String × FileTree)) :
    filesOfEntries p entries = entries.flatMap fun e => filesBelow (p.join ⟨e.1⟩) e.2 := by
  induction entries with
  | nil => rw [filesOfEntries, List.flatMap_nil]
  | cons e entries ih => rw [filesOfEntries, List.flatMap_cons, ih]

theorem exists_entry_of_mem {entries : List (String × FileTree)}
    (h : q ∈ (directory entries).filesBelow p) :
    ∃ e ∈ entries, q ∈ e.2.filesBelow (p.join ⟨e.1⟩) := by
  rw [filesBelow, filesOfEntries_eq] at h
  split at h
  · cases h
  · exact List.mem_flatMap.1 h

/-- **What is listed** is a file of the tree, under the names that lead to it. -/
theorem exists_place_of_mem (ht : t.IsProper) (hp : p.IsDotless) (hq : q ∈ t.filesBelow p) :
    ∃ place contents, t.get? place = some (.file contents) ∧
      q.components = p.components ++ place.map Component.ofName := by
  induction ht generalizing p with
  | file contents =>
    rw [filesBelow, List.mem_singleton] at hq
    exact ⟨[], contents, rfl, by rw [hq, List.map_nil, List.append_nil]⟩
  | directory sorted names trees ih =>
    obtain ⟨e, he, hq⟩ := exists_entry_of_mem hq
    obtain ⟨place, contents, hplace, hcomponents⟩ := ih e he (hp.join (names e he)) hq
    refine ⟨e.1 :: place, contents, ?_, ?_⟩
    · rw [get?, child?, (findEntry_eq_some_iff sorted).2 he]
      exact hplace
    · rw [hcomponents, Path.components_join_append (names e he) hp]

/-- **Every file is listed** if every directory can be. -/
theorem exists_mem_of_get? (ht : t.IsProper) (hopen : t.IsOpen p) (hp : p.IsDotless)
    (hplace : t.get? place = some (.file contents)) :
    ∃ q ∈ t.filesBelow p, q.components = p.components ++ place.map Component.ofName := by
  induction ht generalizing p place with
  | file contents' =>
    cases place with
    | nil => exact ⟨p, by simp [filesBelow], by simp⟩
    | cons name place => cases hplace
  | directory sorted names trees ih =>
    cases place with
    | nil => cases hplace
    | cons name place =>
      obtain ⟨t, ht, hplace⟩ := Option.bind_eq_some_iff.1 hplace
      have he := (findEntry_eq_some_iff sorted).1 ht
      cases hopen with
      | directory listed trees =>
        obtain ⟨q, hq, hcomponents⟩ :=
          ih _ he (trees _ he) (hp.join (names _ he)) hplace
        refine ⟨q, ?_, ?_⟩
        · rw [filesBelow, listed, filesOfEntries_eq]
          exact List.mem_flatMap.2 ⟨_, he, hq⟩
        · rw [hcomponents, Path.components_join_append (names _ he) hp]

/-! ### In which order -/

/-- **The list is strictly increasing.** Within an entry by induction; and from one entry to the
next since their names are the first ones that differ. -/
theorem pairwise_filesBelow (ht : t.IsProper) (hp : p.IsDotless) :
    (t.filesBelow p).Pairwise fun q q' => compare q q' = .lt := by
  induction ht generalizing p with
  | file contents =>
    rw [filesBelow]
    exact List.pairwise_singleton _ _
  | directory sorted names trees ih =>
    rw [filesBelow, filesOfEntries_eq]
    split
    · exact .nil
    · refine List.pairwise_flatMap.2 ⟨fun e he => ih e he (hp.join (names e he)), ?_⟩
      refine sorted.imp_of_mem fun {e e'} he he' hlt q hq q' hq' => ?_
      obtain ⟨place, -, -, hplace⟩ := exists_place_of_mem (trees e he) (hp.join (names e he)) hq
      obtain ⟨place', -, -, hplace'⟩ :=
        exists_place_of_mem (trees e' he') (hp.join (names e' he')) hq'
      rw [Path.components_join_append (names e he) hp] at hplace
      rw [Path.components_join_append (names e' he') hp] at hplace'
      exact Path.compare_of_components hplace hplace' hlt

end FileTree

end DtoInterfaces
