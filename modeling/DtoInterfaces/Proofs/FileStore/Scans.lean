import DtoInterfaces.FileStore.Memory
import DtoInterfaces.Proofs.FileStore.Disk
import DtoInterfaces.Proofs.FileStore.Walk

/-!
# Two ways to look for files

A disk looks for the files below a path by walking through its tree. A store in memory knows no tree
and takes the paths that start with the components of the given one out of its sorted table. If the
store holds the files that the disk holds, the two list the same paths in the same order.

They agree for plain paths, which are what a tree can be asked about: paths that are not empty, have
no dots in them and do not end in a slash. A disk refuses the empty path, and in memory everything is
below it, so there the two lists differ. Dots are followed by a disk and compared in memory, and a
slash at the end asks a disk for a directory. What a disk cannot list it passes over, so all
directories below the path have to be open.

Paths are the same if their components are. The disk spells the paths that it lists by itself, and a
store in memory hands them on as they were recorded.

## Main definitions

* `Path.IsPlain` — the paths that both understand in one way.
* `Disk.IsProper`, `Disk.IsOpenBelow` — disks as systems keep them, with nothing closed below a path.
* `Disk.HasFile`, `Disk.IsSought` — the files of a disk, and those that a scan is to list.
* `MemoryFiles.Mirrors` — stores in memory that hold the same files.

## Main results

* `Disk.tree?_eq_ok_iff` — what a plain path leads to.
* `Disk.mem_components_filesBelow`, `MemoryFiles.mem_components_filesBelow` — what the two list.
* `Disk.filesBelow_mirrored` — they list the same, in the same strictly increasing order.
* `Disk.filesBelow_emptyPath` — they do not if the path is empty.
-/

namespace DtoInterfaces

/-! ### Plain paths -/

namespace Path

variable {p q base : Path}

/-- A path that is written plainly. -/
structure IsPlain (p : Path) : Prop where
  nonempty : p.isEmpty = false
  dotless : p.IsDotless
  /-- Only the root ends in a slash. -/
  noTrailing : Disk.endsWithSlash p = true → Disk.segments p = []

theorem IsPlain.isAbsolute_of_segments_eq_nil (h : p.IsPlain) (hnone : Disk.segments p = []) :
    p.isAbsolute = true := by
  have hne := components_ne_nil h.nonempty
  rw [components_of_isDotless h.dotless, hnone, List.map_nil, List.append_nil] at hne
  by_contra hrelative
  rw [if_neg hrelative] at hne
  exact hne rfl

theorem isBelow_congr (h : p.components = q.components) : p.isBelow base = q.isBelow base := by
  rw [isBelow, isBelow, h]

theorem extension?_congr (h : p.components = q.components) : p.extension? = q.extension? := by
  rw [extension?, extension?, h]

theorem isAbsolute_eq_of_isBelow (hbase : base.isEmpty = false) (h : p.isBelow base = true) :
    p.isAbsolute = base.isAbsolute := by
  obtain ⟨rest, hrest⟩ := List.isPrefixOf_iff_prefix.1 h
  obtain ⟨first, later, hfirst⟩ := List.exists_cons_of_ne_nil (components_ne_nil hbase)
  have hhead : p.components.head? = base.components.head? := by
    rw [← hrest, hfirst]
    rfl
  rw [Bool.eq_iff_iff, ← head?_components_eq_root_iff, ← head?_components_eq_root_iff, hhead]

end Path

/-! ### What a plain path leads to -/

namespace FileTree

/-- What is in a proper tree is a proper tree, and the names that lead to it are names. -/
theorem IsProper.get? {t t' : FileTree} {place : List String} (ht : t.IsProper)
    (h : t.get? place = some t') : t'.IsProper ∧ ∀ name ∈ place, Path.IsName name := by
  induction place generalizing t with
  | nil =>
    cases h
    exact ⟨ht, by simp⟩
  | cons name place ih =>
    cases ht with
    | file contents => cases h
    | directory sorted names trees =>
      obtain ⟨child, hchild, hplace⟩ := Option.bind_eq_some_iff.1 h
      have hmem := (findEntry_eq_some_iff sorted).1 hchild
      obtain ⟨hproper, hnames⟩ := ih (trees _ hmem) hplace
      refine ⟨hproper, fun other hother => ?_⟩
      rcases List.mem_cons.1 hother with rfl | hother
      · exact names _ hmem
      · exact hnames other hother

end FileTree

namespace Disk

variable {d : Disk} {root q : Path} {t : FileTree} {place place' names : List String}

/-- A disk as an operating system keeps it. -/
structure IsProper (d : Disk) : Prop where
  tree : d.root.IsProper
  isDirectory : d.root.isDirectory = true

/-- The place that the segments of a path name, dots or not. -/
def placeOf (d : Disk) (p : Path) : List String := d.startOf p ++ segments p

/-- **Names lead where they say** if there is something. -/
theorem follow_of_get? {tree : FileTree} (ht : tree.IsProper)
    (hdots : ∀ name ∈ names, name ≠ "." ∧ name ≠ "..") (h : tree.get? (place ++ names) = some t) :
    follow tree place names = .ok (place ++ names) := by
  induction names generalizing place with
  | nil => rw [follow, List.append_nil]
  | cons name names ih =>
    obtain ⟨hcurrent, hparent⟩ := hdots name List.mem_cons_self
    rw [FileTree.get?_append] at h
    obtain ⟨outer, houter, hinner⟩ := Option.bind_eq_some_iff.1 h
    cases outer with
    | file contents => cases hinner
    | directory entries =>
      have hname : Path.IsName name :=
        ((ht.get? houter).1.get? hinner).2 name List.mem_cons_self
      obtain ⟨child, hchild, hplace⟩ := Option.bind_eq_some_iff.1 hinner
      have hfound : findEntry name entries = some child := hchild
      have hstep : tree.get? ((place ++ [name]) ++ names) = some t := by
        rw [List.append_assoc, List.singleton_append, FileTree.get?_append, houter]
        exact hinner
      rw [follow]
      simp only [houter, hcurrent, hparent, if_false, Nat.not_lt.2 hname.short, hfound,
        Option.isNone_some, Bool.false_eq_true]
      rw [ih (fun name hname => hdots name (List.mem_cons_of_mem _ hname)) hstep,
        List.append_assoc, List.singleton_append]

/-- Names lead nowhere else. -/
theorem eq_append_of_follow {tree : FileTree} (hdots : ∀ name ∈ names, name ≠ "." ∧ name ≠ "..")
    (h : follow tree place names = .ok place') : place' = place ++ names := by
  induction names generalizing place with
  | nil =>
    rw [follow] at h
    cases h
    rw [List.append_nil]
  | cons name names ih =>
    obtain ⟨hcurrent, hparent⟩ := hdots name List.mem_cons_self
    rw [follow] at h
    simp only [hcurrent, hparent, if_false] at h
    split at h
    · cases h
    · cases h
    · split at h
      · cases h
      · split at h
        · cases h
        · rw [ih (fun name hname => hdots name (List.mem_cons_of_mem _ hname)) h,
            List.append_assoc, List.singleton_append]

/-- A plain path to a file does not end in a slash. -/
theorem endsWithSlash_eq_false {contents : ByteArray} (hd : d.IsProper) (hroot : root.IsPlain)
    (h : d.root.get? (d.placeOf root) = some (.file contents)) : endsWithSlash root = false := by
  by_contra hslash
  have hnone := hroot.noTrailing (Bool.not_eq_false _ ▸ hslash)
  have htop : d.placeOf root = [] := by
    rw [placeOf, hnone, startOf, if_pos (hroot.isAbsolute_of_segments_eq_nil hnone)]
    rfl
  have hfile : d.root = .file contents := by
    rw [htop] at h
    exact Option.some.inj h
  have hdirectory := hd.isDirectory
  rw [hfile] at hdirectory
  cases hdirectory

/-- **What a plain path leads to** is what is at its place, unless the path is refused. -/
theorem tree?_eq_ok_iff (hd : d.IsProper) (hroot : root.IsPlain) :
    d.tree? root = .ok t ↔ refusal? root = none ∧ d.root.get? (d.placeOf root) = some t := by
  constructor
  · intro h
    obtain ⟨place, hplace, htree⟩ := exists_of_bind_eq_ok h
    unfold locate at hplace
    split at hplace
    · cases hplace
    · rename_i hrefusal
      obtain ⟨place', hfollow, hplace⟩ := exists_of_bind_eq_ok hplace
      obtain rfl := eq_append_of_follow hroot.dotless hfollow
      have hsame : place = d.placeOf root := by
        split at hplace
        · cases hplace
          rfl
        · split at hplace
          · cases hplace
          · cases hplace
            rfl
        · cases hplace
      rw [hsame] at htree
      split at htree
      · cases htree
        exact ⟨hrefusal, ‹_›⟩
      · cases htree
  · rintro ⟨hrefusal, hget⟩
    have hfollow : follow d.root (d.startOf root) (segments root) = .ok (d.placeOf root) :=
      follow_of_get? hd.tree hroot.dotless hget
    have hlocate : d.locate root = .ok (d.placeOf root) := by
      unfold locate
      rw [hrefusal]
      simp only [bind_of_eq_ok hfollow, hget]
      cases t with
      | directory entries => rfl
      | file contents => simp only [endsWithSlash_eq_false hd hroot hget, Bool.false_eq_true, if_false]
    rw [tree?, bind_of_eq_ok hlocate, hget]

/-! ### The files of a disk -/

/-- The components of a path name a file of the disk, without dots. -/
def HasFile (d : Disk) (p : Path) : Prop :=
  ∃ names contents,
    p.components = (if p.isAbsolute then [.root] else []) ++ names.map Component.ofName ∧
    d.root.get? (d.startOf p ++ names) = some (.file contents)

/-- A file of the disk that is at or below a path and has the given extension. -/
def IsSought (d : Disk) (root : Path) (extension : String) (p : Path) : Prop :=
  d.HasFile p ∧ p.isBelow root = true ∧ p.extension? = some extension

/-- Every directory at or below a path can be listed, and a file at the path can be looked at. -/
def IsOpenBelow (d : Disk) (root : Path) : Prop :=
  ∀ t, d.root.get? (d.placeOf root) = some t → refusal? root = none ∧ t.IsOpen root

/-- The files of a disk below a path are those of the tree that the path leads to. -/
theorem hasFile_iff_of_isBelow (hroot : root.IsPlain) (hbelow : q.isBelow root = true) :
    d.HasFile q ↔ ∃ names contents, d.root.get? (d.placeOf root ++ names) = some (.file contents) ∧
      q.components = root.components ++ names.map Component.ofName := by
  have hstart : q.isAbsolute = root.isAbsolute :=
    Path.isAbsolute_eq_of_isBelow hroot.nonempty hbelow
  have hplace : d.startOf q = d.startOf root := by
    rw [startOf, startOf, hstart]
  have hcomponents := Path.components_of_isDotless hroot.dotless
  rw [HasFile, hstart, hplace]
  constructor
  · rintro ⟨names, contents, hnames, hfile⟩
    obtain ⟨rest, rfl⟩ : segments root <+: names := by
      have hprefix : root.components <+: q.components := List.isPrefixOf_iff_prefix.1 hbelow
      rw [hcomponents, hnames, List.prefix_append_right_inj,
        List.prefix_map_iff_of_injective Component.ofName_injective] at hprefix
      exact hprefix
    refine ⟨rest, contents, ?_, ?_⟩
    · rw [placeOf, List.append_assoc]
      exact hfile
    · rw [hnames, hcomponents, List.map_append, List.append_assoc]
  · rintro ⟨names, contents, hfile, hnames⟩
    refine ⟨segments root ++ names, contents, ?_, ?_⟩
    · rw [hnames, hcomponents, List.map_append, List.append_assoc]
    · rw [← List.append_assoc]
      exact hfile

/-- **What a disk lists below a plain path** is what is sought there. -/
theorem mem_components_filesBelow (hd : d.IsProper) (hroot : root.IsPlain)
    (hopen : d.IsOpenBelow root) (extension : String) (cs : List Component) :
    cs ∈ (d.filesBelow root extension).map Path.components ↔
      ∃ q, q.components = cs ∧ d.IsSought root extension q := by
  constructor
  · intro hmem
    obtain ⟨q, hq, rfl⟩ := List.mem_map.1 hmem
    unfold filesBelow at hq
    split at hq
    · rename_i t ht
      obtain ⟨hq, hextension⟩ := List.mem_filter.1 hq
      obtain ⟨-, hplace⟩ := (tree?_eq_ok_iff hd hroot).1 ht
      obtain ⟨names, contents, hfile, hcomponents⟩ :=
        FileTree.exists_place_of_mem (hd.tree.get? hplace).1 hroot.dotless hq
      have hbelow : q.isBelow root = true := List.isPrefixOf_iff_prefix.2 ⟨_, hcomponents.symm⟩
      have hwhole : d.root.get? (d.placeOf root ++ names) = some (.file contents) := by
        rw [FileTree.get?_append, hplace]
        exact hfile
      exact ⟨q, rfl,
        (hasFile_iff_of_isBelow hroot hbelow).2 ⟨names, contents, hwhole, hcomponents⟩, hbelow,
        by simpa using hextension⟩
    · cases hq
  · rintro ⟨q, rfl, hfile, hbelow, hextension⟩
    obtain ⟨names, contents, hfile, hcomponents⟩ := (hasFile_iff_of_isBelow hroot hbelow).1 hfile
    rw [FileTree.get?_append] at hfile
    obtain ⟨t, hplace, hfile⟩ := Option.bind_eq_some_iff.1 hfile
    obtain ⟨hrefusal, hlisted⟩ := hopen t hplace
    obtain ⟨q', hq', hsame⟩ :=
      FileTree.exists_mem_of_get? (hd.tree.get? hplace).1 hlisted hroot.dotless hfile
    have hsame : q'.components = q.components := hsame.trans hcomponents.symm
    refine List.mem_map.2 ⟨q', ?_, hsame⟩
    rw [filesBelow, (tree?_eq_ok_iff hd hroot).2 ⟨hrefusal, hplace⟩]
    refine List.mem_filter.2 ⟨hq', ?_⟩
    rw [Path.extension?_congr hsame, hextension, BEq.rfl]

theorem pairwise_filesBelow (hd : d.IsProper) (hroot : root.IsPlain) (extension : String) :
    (d.filesBelow root extension).Pairwise fun q q' => compare q q' = .lt := by
  unfold filesBelow
  split
  · rename_i t ht
    obtain ⟨-, hplace⟩ := (tree?_eq_ok_iff hd hroot).1 ht
    exact (FileTree.pairwise_filesBelow (hd.tree.get? hplace).1 hroot.dotless).filter _
  · exact .nil

end Disk

/-! ### The files of a store in memory -/

theorem SortedMap.contains_path_iff {α : Type} {m : SortedMap Path α} {p : Path} :
    m.contains p = true ↔ ∃ q ∈ m.keys, q.components = p.components := by
  rw [contains, get?, isSome_findEntry_iff, keys]
  simp only [Path.compare_eq_iff, List.mem_map]
  constructor
  · rintro ⟨entry, hentry, hsame⟩
    exact ⟨entry.1, ⟨entry, hentry, rfl⟩, hsame.symm⟩
  · rintro ⟨q, ⟨entry, hentry, rfl⟩, hsame⟩
    exact ⟨entry, hentry, hsame.symm⟩

namespace MemoryFiles

variable {s : MemoryFiles} {d : Disk} {root : Path}

/-- A store in memory holds the same files as a disk, under absolute paths or under paths from the
working directory. -/
def Mirrors (s : MemoryFiles) (d : Disk) (absolute : Bool) : Prop :=
  ∀ p : Path, p.isAbsolute = absolute → (s.files.contains p = true ↔ d.HasFile p)

/-- A store that records what a walk from the root lists holds the files of the disk. -/
theorem mirrors_of_keys (hd : d.IsProper) (hopen : d.root.IsOpen ⟨"/"⟩)
    (h : s.files.keys.map Path.components = (d.root.filesBelow ⟨"/"⟩).map Path.components) :
    s.Mirrors d true := by
  have hroot : (⟨"/"⟩ : Path).components = [.root] := by decide +kernel
  have hnone : Disk.segments ⟨"/"⟩ = [] := by decide +kernel
  have hdotless : (⟨"/"⟩ : Path).IsDotless := fun segment hsegment =>
    absurd (hnone ▸ hsegment) List.not_mem_nil
  intro p hp
  have hstart : d.startOf p = [] := by
    rw [Disk.startOf, if_pos hp]
  rw [SortedMap.contains_path_iff, Disk.HasFile, hp, hstart, if_pos rfl]
  constructor
  · rintro ⟨q, hq, hsame⟩
    have hmem : q.components ∈ (d.root.filesBelow ⟨"/"⟩).map Path.components :=
      h ▸ List.mem_map_of_mem hq
    obtain ⟨q', hq', hcomponents⟩ := List.mem_map.1 hmem
    obtain ⟨names, contents, hfile, hnames⟩ :=
      FileTree.exists_place_of_mem hd.tree hdotless hq'
    exact ⟨names, contents, by rw [← hsame, ← hcomponents, hnames, hroot], hfile⟩
  · rintro ⟨names, contents, hnames, hfile⟩
    obtain ⟨q, hq, hcomponents⟩ := FileTree.exists_mem_of_get? hd.tree hopen hdotless hfile
    have hmem : q.components ∈ s.files.keys.map Path.components := h ▸ List.mem_map_of_mem hq
    obtain ⟨q', hq', hsame⟩ := List.mem_map.1 hmem
    exact ⟨q', hq', by rw [hsame, hcomponents, hnames, hroot, List.nil_append]⟩

/-- **What a store in memory lists below a path** is what is sought there on the disk. -/
theorem mem_components_filesBelow (hroot : root.isEmpty = false)
    (hsame : s.Mirrors d root.isAbsolute) (extension : String) (cs : List Component) :
    cs ∈ (s.filesBelow root extension).map Path.components ↔
      ∃ q, q.components = cs ∧ d.IsSought root extension q := by
  constructor
  · intro hmem
    obtain ⟨q, hq, rfl⟩ := List.mem_map.1 hmem
    obtain ⟨hkey, hq⟩ := List.mem_filter.1 hq
    obtain ⟨hbelow, hextension⟩ := Bool.and_eq_true_iff.1 hq
    have hfile : d.HasFile q :=
      (hsame q (Path.isAbsolute_eq_of_isBelow hroot hbelow)).1 (SortedMap.contains_path_iff.2
        ⟨q, hkey, rfl⟩)
    exact ⟨q, rfl, hfile, hbelow, by simpa using hextension⟩
  · rintro ⟨q, rfl, hfile, hbelow, hextension⟩
    obtain ⟨q', hkey, hq'⟩ := SortedMap.contains_path_iff.1
      ((hsame q (Path.isAbsolute_eq_of_isBelow hroot hbelow)).2 hfile)
    refine List.mem_map.2 ⟨q', List.mem_filter.2 ⟨hkey, ?_⟩, hq'⟩
    rw [Path.isBelow_congr hq', Path.extension?_congr hq', hbelow, hextension, BEq.rfl, Bool.and_self]

end MemoryFiles

/-! ### The two lists -/

/-- Strictly increasing lists of paths are the same if they have the same members. -/
theorem map_components_eq {ps qs : List Path} (hps : ps.Pairwise fun p q => compare p q = .lt)
    (hqs : qs.Pairwise fun p q => compare p q = .lt)
    (h : ∀ cs, cs ∈ ps.map Path.components ↔ cs ∈ qs.map Path.components) :
    ps.map Path.components = qs.map Path.components := by
  let key (cs : List Component) : List (List Nat) := cs.map Component.rank
  have hps' : (ps.map Path.components).Pairwise fun cs ds => compare (key cs) (key ds) = .lt :=
    List.pairwise_map.2 hps
  have hqs' : (qs.map Path.components).Pairwise fun cs ds => compare (key cs) (key ds) = .lt :=
    List.pairwise_map.2 hqs
  have hne : ∀ {cs ds}, compare (key cs) (key ds) = .lt → cs ≠ ds := by
    rintro cs ds hlt rfl
    rw [Std.ReflOrd.compare_self] at hlt
    cases hlt
  have hperm : (ps.map Path.components).Perm (qs.map Path.components) :=
    (List.perm_ext_iff_of_nodup (hps'.imp hne) (hqs'.imp hne)).2 h
  refine List.Perm.eq_of_pairwise (fun cs ds _ _ hlt hgt => ?_) hps' hqs' hperm
  rw [Std.OrientedCmp.gt_iff_lt.2 hgt] at hlt
  cases hlt

/-- **A disk and its mirror in memory list the same files.** Whatever the disk holds, and whether a
plain path is one of a directory, of a file or of nothing: if everything below it is open, and the
store holds the files of the disk, both list the same paths, and both lists are strictly increasing
in the order of paths. -/
theorem Disk.filesBelow_mirrored {d : Disk} {s : MemoryFiles} {root : Path} (hd : d.IsProper)
    (hroot : root.IsPlain) (hopen : d.IsOpenBelow root) (hsame : s.Mirrors d root.isAbsolute)
    (extension : String) :
    (d.filesBelow root extension).map Path.components =
      (s.filesBelow root extension).map Path.components ∧
    ((d.filesBelow root extension).Pairwise fun p q => compare p q = .lt) ∧
    (s.filesBelow root extension).Pairwise fun p q => compare p q = .lt := by
  have hdisk := d.pairwise_filesBelow hd hroot extension
  have hmemory : (s.filesBelow root extension).Pairwise fun p q => compare p q = .lt :=
    s.files.pairwise_keys.filter _
  refine ⟨map_components_eq hdisk hmemory fun cs => ?_, hdisk, hmemory⟩
  rw [Disk.mem_components_filesBelow hd hroot hopen,
    MemoryFiles.mem_components_filesBelow hroot.nonempty hsame]

/-- A directory with three source files. As a text `a/x.php` comes behind `a-b/x.php`. -/
def sourceTree : FileTree :=
  .directory [("a", .directory [("x.php", .file .empty)]),
    ("a-b", .directory [("x.php", .file .empty)]), ("a.php", .file .empty), ("a.txt", .file .empty)]

/-- A disk with that directory. -/
def sourceDisk : Disk := ⟨.directory [("src", sourceTree)], []⟩

/-- The files of that disk in memory. -/
def sourceFiles : MemoryFiles :=
  [⟨"/src/a.txt"⟩, ⟨"/src/a.php"⟩, ⟨"/src/a-b/x.php"⟩, ⟨"/src/a/x.php"⟩].foldl
    (fun s p => s.addFile p "") .empty

/-- The trees of the example are proper, and all of them can be listed. -/
theorem isProper_sourceDisk : sourceDisk.IsProper ∧ sourceDisk.root.IsOpen ⟨"/"⟩ ∧
    sourceTree.IsOpen ⟨"/src"⟩ := by
  have hname : ∀ name ∈ ["src", "a", "a-b", "a.php", "a.txt", "x.php"], Path.IsName name := by
    have hall : ["src", "a", "a-b", "a.php", "a.txt", "x.php"].all (fun name =>
        name ≠ "" ∧ '/' ∉ name.toList ∧ (name ≠ "." ∧ name ≠ "..") ∧
          name.utf8ByteSize ≤ Disk.longestName) = true := by
      decide +kernel
    intro name hmem
    have h := of_decide_eq_true (List.all_eq_true.1 hall name hmem)
    exact ⟨h.1, h.2.1, h.2.2.1, h.2.2.2⟩
  have hinner : (FileTree.directory [("x.php", .file .empty)]).IsProper := by
    refine .directory (List.pairwise_singleton _ _) ?_ ?_
    · simpa using hname "x.php" (by simp)
    · simpa using FileTree.IsProper.file .empty
  have hsource : sourceTree.IsProper := by
    refine .directory (by decide +kernel) ?_ ?_
    · simp [hname]
    · simp only [List.forall_mem_cons]
      exact ⟨hinner, hinner, .file .empty, .file .empty, by simp⟩
  have hopen : sourceTree.IsOpen ⟨"/src"⟩ := by
    refine .directory (by decide +kernel) ?_
    simp only [List.forall_mem_cons]
    refine ⟨.directory (by decide +kernel) ?_, .directory (by decide +kernel) ?_, .file _ _,
      .file _ _, by simp⟩
    · simpa using FileTree.IsOpen.file _ _
    · simpa using FileTree.IsOpen.file _ _
  have hjoin : (⟨"/"⟩ : Path).join ⟨"src"⟩ = ⟨"/src"⟩ := by decide +kernel
  refine ⟨⟨.directory (List.pairwise_singleton _ _) ?_ ?_, rfl⟩, .directory (by decide +kernel) ?_,
    hopen⟩
  · simpa using hname "src" (by simp)
  · simpa using hsource
  · simpa [hjoin] using hopen

/-- Both list the three files in the order of their components. -/
theorem Disk.filesBelow_mirrored_source :
    sourceDisk.IsProper ∧ (⟨"/src"⟩ : Path).IsPlain ∧ sourceDisk.IsOpenBelow ⟨"/src"⟩ ∧
    sourceFiles.Mirrors sourceDisk (⟨"/src"⟩ : Path).isAbsolute ∧
    sourceDisk.filesBelow ⟨"/src"⟩ "php" = [⟨"/src/a/x.php"⟩, ⟨"/src/a-b/x.php"⟩, ⟨"/src/a.php"⟩] ∧
    (sourceFiles.filesBelow ⟨"/src"⟩ "php").map Path.components =
      [⟨"/src/a/x.php"⟩, ⟨"/src/a-b/x.php"⟩, ⟨"/src/a.php"⟩].map Path.components := by
  obtain ⟨hdisk, hroot, hsource⟩ := isProper_sourceDisk
  have hsegments : Disk.segments ⟨"/src"⟩ = ["src"] := by decide +kernel
  have hplain : (⟨"/src"⟩ : Path).IsPlain := by
    refine ⟨by decide +kernel, fun segment hsegment => ?_, fun hslash => ?_⟩
    · rw [hsegments, List.mem_singleton] at hsegment
      rw [hsegment]
      decide +kernel
    · exact absurd hslash (by decide +kernel)
  have habsolute : (⟨"/src"⟩ : Path).isAbsolute = true := by decide +kernel
  have hopen : sourceDisk.IsOpenBelow ⟨"/src"⟩ := by
    intro t ht
    have hplace : sourceDisk.placeOf ⟨"/src"⟩ = ["src"] := by decide +kernel
    have htree : sourceDisk.root.get? ["src"] = some sourceTree := by rfl
    rw [hplace, htree] at ht
    cases ht
    exact ⟨by decide +kernel, hsource⟩
  have hmirrors : sourceFiles.Mirrors sourceDisk (⟨"/src"⟩ : Path).isAbsolute := by
    rw [habsolute]
    exact MemoryFiles.mirrors_of_keys hdisk hroot (by decide +kernel)
  have hlist : sourceDisk.filesBelow ⟨"/src"⟩ "php" =
      [⟨"/src/a/x.php"⟩, ⟨"/src/a-b/x.php"⟩, ⟨"/src/a.php"⟩] := by
    decide +kernel
  obtain ⟨hsame, -, -⟩ := Disk.filesBelow_mirrored hdisk hplain hopen hmirrors "php"
  rw [hlist] at hsame
  exact ⟨hdisk, hplain, hopen, hmirrors, hlist, hsame.symm⟩

/-! ### The empty path -/

/-- A disk with one file, which is in the working directory. -/
def loneDisk : Disk := ⟨.directory [("a.php", .file .empty)], []⟩

/-- The file of that disk in memory. -/
def loneFiles : MemoryFiles := MemoryFiles.empty.addFile ⟨"a.php"⟩ ""

/-- There is no file on that disk but the one. -/
theorem eq_of_get?_loneDisk {names : List String} {contents : ByteArray}
    (h : loneDisk.root.get? names = some (.file contents)) : names = ["a.php"] := by
  cases names with
  | nil => cases h
  | cons name names =>
    obtain ⟨child, hchild, hnames⟩ := Option.bind_eq_some_iff.1 h
    have hfound : findEntry name [("a.php", FileTree.file .empty)] = some child := hchild
    rw [findEntry_eq_some_iff (List.pairwise_singleton _ _), List.mem_singleton] at hfound
    obtain ⟨rfl, rfl⟩ := Prod.mk.inj hfound
    cases names with
    | nil => rfl
    | cons name names => cases hnames

theorem isProper_loneDisk : loneDisk.IsProper ∧ loneDisk.IsOpenBelow ⟨"/"⟩ := by
  have hname : Path.IsName "a.php" := by
    refine ⟨by decide, ?_, by decide, ?_⟩ <;> decide +kernel
  refine ⟨⟨.directory (List.pairwise_singleton _ _) ?_ ?_, rfl⟩, fun t ht => ?_⟩
  · simpa using hname
  · simpa using FileTree.IsProper.file .empty
  · have hplace : loneDisk.placeOf ⟨"/"⟩ = [] := by decide +kernel
    rw [hplace] at ht
    cases ht
    refine ⟨by decide +kernel, .directory (by decide +kernel) ?_⟩
    simpa using FileTree.IsOpen.file _ _

theorem mirrors_loneFiles : loneFiles.Mirrors loneDisk false := by
  intro p hrelative
  have hkeys : loneFiles.files.keys = [⟨"a.php"⟩] := by decide +kernel
  have hcomponents : (⟨"a.php"⟩ : Path).components = ["a.php"].map Component.ofName := by
    decide +kernel
  have hstart : loneDisk.startOf p = [] := by
    rw [Disk.startOf, hrelative]
    rfl
  rw [SortedMap.contains_path_iff, hkeys, Disk.HasFile, hrelative, hstart]
  constructor
  · rintro ⟨q, hq, hsame⟩
    rw [List.mem_singleton.1 hq, hcomponents] at hsame
    exact ⟨["a.php"], .empty, hsame.symm, rfl⟩
  · rintro ⟨names, contents, hnames, hfile⟩
    obtain rfl := eq_of_get?_loneDisk hfile
    exact ⟨⟨"a.php"⟩, List.mem_singleton_self _, hcomponents.trans hnames.symm⟩

/-- **The empty path** has neither dots nor a slash at its end, and yet the two lists differ. On a
disk it leads to nothing, so nothing is listed. In memory every path starts with its components,
since it has none. -/
theorem Disk.filesBelow_emptyPath :
    loneDisk.IsProper ∧ loneDisk.IsOpenBelow ⟨"/"⟩ ∧
    loneFiles.Mirrors loneDisk (⟨""⟩ : Path).isAbsolute ∧
    (⟨""⟩ : Path).IsDotless ∧ endsWithSlash ⟨""⟩ = false ∧ loneDisk.pathExists ⟨""⟩ = false ∧
    loneDisk.filesBelow ⟨""⟩ "php" = [] ∧ loneFiles.filesBelow ⟨""⟩ "php" = [⟨"a.php"⟩] := by
  obtain ⟨hproper, hopen⟩ := isProper_loneDisk
  have hrelative : (⟨""⟩ : Path).isAbsolute = false := by decide +kernel
  have hsegments : Disk.segments ⟨""⟩ = [] := by decide +kernel
  have hdotless : (⟨""⟩ : Path).IsDotless := fun segment hsegment =>
    absurd (hsegments ▸ hsegment) List.not_mem_nil
  refine ⟨hproper, hopen, hrelative ▸ mirrors_loneFiles, hdotless, ?_, ?_, ?_, ?_⟩ <;>
    decide +kernel

end DtoInterfaces
