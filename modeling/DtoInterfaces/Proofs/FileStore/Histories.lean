import DtoInterfaces.Proofs.FileStore.Enclosing
import DtoInterfaces.Proofs.FileStore.Memory
import DtoInterfaces.Proofs.FileStore.Scans

/-!
# Histories of files in memory

Files in memory come about by operations, one after another. Some put things in place and always
succeed; the others are the calls that an export makes, and can fail. A path may be written in any
way and may be asked for in any state, so nothing is known of a store but that it has a history.

That is enough for its tables to be a tree. Whoever records a directory records the ones around it,
and a file is put where there is a place for it, or a place is made first. The two tables are filled
independently and in different ways, and so the invariant says something about each of them: the
directories are closed under what is around them, and the directory of a file is there. What is
around a file follows from the two together.

The empty path is left out everywhere. It is around every relative path and recorded for none.

## Main definitions

* `MemoryFiles.Placement`, `MemoryFiles.Call`, `MemoryFiles.Operation` — what can be done.
* `MemoryFiles.ofOperations` — the store with a given history.
* `MemoryFiles.IsRooted` — the tables are a tree.

## Main results

* `MemoryFiles.Call.perform_cases` — what a call can do.
* `MemoryFiles.IsRooted.apply`, `MemoryFiles.IsRooted.foldl_apply` — every operation keeps the
  tree, and so does a history.
* `MemoryFiles.isRooted_ofOperations` — every store with a history is a tree.
-/

namespace DtoInterfaces

namespace MemoryFiles

variable {s : MemoryFiles} {p q around : Path} {ps : List Path} {text : String}

/-! ### Operations -/

/-- What is put in place, whatever is denied. -/
inductive Placement where
  | file (p : Path) (text : String)
  | directory (p : Path)
  /-- A path below which nothing may be created or written from now on. -/
  | denial (p : Path)

/-- Put something in place. -/
def Placement.apply (s : MemoryFiles) : Placement → MemoryFiles
  | file p text => s.addFile p text
  | directory p => s.addDirectory p
  | denial p => s.deny p

/-- The calls of a file store that change it. -/
inductive Call where
  | createDirectories (p : Path)
  | writeText (p : Path) (text : String)

/-- Make a call. -/
def Call.perform : Call → StateM MemoryFiles (Except FileError Unit)
  | createDirectories p => FileStore.createDirectories p
  | writeText p text => FileStore.writeText p text

/-- What a call leaves behind. -/
def Call.apply (s : MemoryFiles) (call : Call) : MemoryFiles := (call.perform.run s).2

/-- Anything that can be done. -/
inductive Operation where
  | placement (p : Placement)
  | call (c : Call)

/-- Do something. -/
def Operation.apply (s : MemoryFiles) : Operation → MemoryFiles
  | placement p => p.apply s
  | call c => c.apply s

/-- The store that comes of some operations, one after another. -/
def ofOperations (operations : List Operation) : MemoryFiles :=
  operations.foldl Operation.apply empty

/-- **What a call can do.** It is refused and changes nothing; or it makes a directory that is not
denied; or it writes a file for which there is a place that is not denied. -/
theorem Call.perform_cases (s : MemoryFiles) (call : Call) :
    (∃ e, call.perform.run s = (.error e, s)) ∨
    (∃ p, call = .createDirectories p ∧ s.isDenied p = false ∧
      call.perform.run s = (.ok (), s.addDirectory p)) ∨
    ∃ p text, call = .writeText p text ∧ s.hasPlaceFor p = true ∧ s.isDenied p = false ∧
      call.perform.run s = (.ok (), { s with files := s.files.insert p text }) := by
  cases call with
  | createDirectories p =>
    have hrun : (createDirectories p).perform.run s = s.createDirectories p := rfl
    rw [hrun]
    rcases s.createDirectories_cases p with ⟨e, hrefused, -⟩ | ⟨hmade, hallowed⟩
    · exact .inl ⟨e, hrefused⟩
    · exact .inr (.inl ⟨p, rfl, hallowed, hmade⟩)
  | writeText p text =>
    have hrun : (writeText p text).perform.run s = s.writeText p text := rfl
    rw [hrun]
    rcases s.writeText_cases p text with ⟨e, hrefused, -⟩ | ⟨hwritten, hplace, hallowed⟩
    · exact .inl ⟨e, hrefused⟩
    · exact .inr (.inr ⟨p, text, rfl, hplace, hallowed, hwritten⟩)

/-! ### Trees -/

theorem isDirectory_congr (h : p.components = q.components) : s.isDirectory p = s.isDirectory q := by
  rw [isDirectory, isDirectory, SortedMap.contains, SortedMap.contains,
    SortedMap.get?_congr _ (Path.compare_eq_iff.2 h)]

/-- The tables of a store are a tree. -/
structure IsRooted (s : MemoryFiles) : Prop where
  /-- What is around a directory is a directory, unless it is the empty path. -/
  isDirectory_around : ∀ p, s.isDirectory p = true →
    ∀ around ∈ p.ancestors, around.isEmpty = false → s.isDirectory around = true
  /-- The empty path is no directory. -/
  isEmpty_eq_false : ∀ p, s.isDirectory p = true → p.isEmpty = false
  /-- The path around a file is empty or a directory, or there is none. -/
  hasPlaceFor : ∀ p ∈ s.files.keys, s.hasPlaceFor p = true

theorem isRooted_empty : empty.IsRooted where
  isDirectory_around _ hp := nomatch hp
  isEmpty_eq_false _ hp := nomatch hp
  hasPlaceFor _ hp := nomatch hp

theorem hasPlaceFor_addDirectories (h : s.hasPlaceFor p = true) :
    (s.addDirectories ps).hasPlaceFor p = true := by
  rw [MemoryFiles.hasPlaceFor] at h ⊢
  cases hparent : p.parent? with
  | none => rfl
  | some parent =>
    rw [hparent, Option.all_some, Bool.or_eq_true] at h
    rw [Option.all_some, Bool.or_eq_true]
    exact h.imp_right fun hthere => isDirectory_addDirectories_iff.2 (.inl hthere)

/-- **Recording directories keeps the tree** if with each of them what is around it is recorded, in
some spelling. -/
theorem IsRooted.addDirectories (h : s.IsRooted)
    (hclosed : ∀ q ∈ ps, ∀ around, q.IsWithin around →
      ∃ q' ∈ ps, q'.components = around.components) :
    (s.addDirectories ps).IsRooted where
  isDirectory_around p hp around haround hfull := by
    rw [isDirectory_addDirectories_iff] at hp ⊢
    rcases hp with hthere | ⟨q, hq, -, hsame⟩
    · exact .inl (h.isDirectory_around p hthere around haround hfull)
    · have hwithin : q.IsWithin around :=
        (Path.isWithin_congr hsame).1 (Path.isWithin_of_mem haround)
      obtain ⟨q', hq', hcomponents⟩ := hclosed q hq around hwithin
      refine .inr ⟨q', hq', ?_, hcomponents.symm⟩
      rw [Bool.eq_false_iff, ne_eq, Path.isEmpty_iff] at hfull ⊢
      rwa [hcomponents]
  isEmpty_eq_false p hp := by
    rcases isDirectory_addDirectories_iff.1 hp with hthere | ⟨q, -, hfull, hsame⟩
    · exact h.isEmpty_eq_false p hthere
    · rw [Bool.eq_false_iff, ne_eq, Path.isEmpty_iff] at hfull ⊢
      rwa [hsame]
  hasPlaceFor p hp := hasPlaceFor_addDirectories (h.hasPlaceFor p hp)

theorem IsRooted.addDirectory (h : s.IsRooted) (p : Path) : (s.addDirectory p).IsRooted :=
  h.addDirectories fun _ hq _ hwithin => (Path.isWithin_of_mem hq).trans hwithin

/-- A file that is written where there is a place for it keeps the tree. -/
theorem IsRooted.insert (h : s.IsRooted) (hplace : s.hasPlaceFor p = true) :
    IsRooted { s with files := s.files.insert p text } where
  isDirectory_around := h.isDirectory_around
  isEmpty_eq_false := h.isEmpty_eq_false
  hasPlaceFor q hq := by
    obtain ⟨e, he, rfl⟩ := List.mem_map.1 hq
    rcases mem_insertEntry_key he with hnew | ⟨old, hold, hsame⟩
    · rw [hnew]
      exact hplace
    · rw [← hsame]
      exact h.hasPlaceFor _ (List.mem_map_of_mem hold)

/-- Putting a file in place keeps the tree: the directories around it come first. -/
theorem IsRooted.addFile (h : s.IsRooted) (p : Path) (text : String) :
    (s.addFile p text).IsRooted := by
  have hplace : (s.addDirectories p.enclosing).hasPlaceFor p = true := by
    rw [MemoryFiles.hasPlaceFor]
    cases hparent : p.parent? with
    | none => rfl
    | some parent =>
      rw [Option.all_some, Bool.or_eq_true, isDirectory_addDirectories_iff]
      by_cases hempty : parent.isEmpty = true
      · exact .inl hempty
      · exact .inr (.inr ⟨parent, List.mem_of_head? hparent, Bool.eq_false_iff.2 hempty, rfl⟩)
  exact (h.addDirectories fun _ hq _ hwithin => hwithin.exists_mem_enclosing hq).insert hplace

/-- **Every operation keeps the tree.** -/
theorem IsRooted.apply (h : s.IsRooted) (operation : Operation) : (operation.apply s).IsRooted := by
  rcases operation with (⟨p, text⟩ | p | p) | call
  · exact h.addFile p text
  · exact h.addDirectory p
  · exact ⟨h.isDirectory_around, h.isEmpty_eq_false, h.hasPlaceFor⟩
  · show (call.perform.run s).2.IsRooted
    rcases call.perform_cases s with ⟨e, hrun⟩ | ⟨p, -, -, hrun⟩ | ⟨p, text, -, hplace, -, hrun⟩
    · rw [hrun]
      exact h
    · rw [hrun]
      exact h.addDirectory p
    · rw [hrun]
      exact h.insert hplace

/-- Any operations, one after another, keep the tree. -/
theorem IsRooted.foldl_apply (h : s.IsRooted) (operations : List Operation) :
    (operations.foldl Operation.apply s).IsRooted := by
  induction operations generalizing s with
  | nil => exact h
  | cons operation operations ih => exact ih (h.apply operation)

/-- In a tree everything around a file is a directory, except for the empty path. -/
theorem IsRooted.isDirectory_of_mem_keys (h : s.IsRooted) (hp : p ∈ s.files.keys)
    (haround : around ∈ p.enclosing) (hfull : around.isEmpty = false) :
    s.isDirectory around = true := by
  have hplace := h.hasPlaceFor p hp
  rw [MemoryFiles.hasPlaceFor] at hplace
  cases hparent : p.parent? with
  | none =>
    rw [Path.parent?, List.head?_eq_none_iff] at hparent
    rw [hparent] at haround
    cases haround
  | some parent =>
    rw [hparent, Option.all_some, Bool.or_eq_true] at hplace
    have hwithin : parent.IsWithin around := Path.isWithin_of_parent? hparent haround
    rw [Bool.eq_false_iff, ne_eq, Path.isEmpty_iff] at hfull
    rcases hplace with hempty | hthere
    · have hfront := (Path.isWithin_iff.1 hwithin).1
      rw [Path.isEmpty_iff.1 hempty, List.prefix_nil] at hfront
      exact absurd hfront hfull
    · obtain ⟨spelled, hspelled, hsame⟩ := hwithin
      rw [← isDirectory_congr hsame]
      refine h.isDirectory_around parent hthere spelled hspelled ?_
      rwa [Bool.eq_false_iff, ne_eq, Path.isEmpty_iff, hsame]

/-- **Every store with a history is a tree.** Whatever has been put in place, made, written or
refused, in any order and with any paths: what is around a directory is a directory, the empty path
is none, and for every file there is a place. So everything around a file that is found by a scan is
a directory, except for the empty path. -/
theorem isRooted_ofOperations (operations : List Operation) :
    (ofOperations operations).IsRooted ∧
      ∀ root extension, ∀ p ∈ (ofOperations operations).filesBelow root extension,
        ∀ around ∈ p.enclosing, around.isEmpty = false →
          (ofOperations operations).isDirectory around = true := by
  have hrooted : (ofOperations operations).IsRooted := isRooted_empty.foldl_apply operations
  refine ⟨hrooted, ?_⟩
  intro root extension p hp around haround hfull
  exact hrooted.isDirectory_of_mem_keys (List.mem_filter.1 hp).1 haround hfull

end MemoryFiles

end DtoInterfaces
