import DtoInterfaces.Proofs.FileStore.Lawful
import DtoInterfaces.Proofs.SortedMap
import Mathlib.Tactic.ByContra

/-!
# What changes in memory

Files in memory change in two ways: directories are recorded, and files are written. Neither looks
into what the other changes, and no operation changes what is denied. So each can be described on
its own: which directories there are afterwards, and which file has new contents.

Doing again what has just been done changes nothing at all. A directory that is in place is
recorded already, and a key keeps the spelling under which it was written first.

## Main definitions

* `MemoryFiles.withDirectory` — the store with a directory in place.
* `MemoryFiles.HasGrown` — what is different when only a directory has been put in place.

## Main results

* `MemoryFiles.isDirectory_addDirectories_iff` — the directories after some have been recorded.
* `MemoryFiles.hasGrown_withDirectory` — what putting a directory in place changes.
* `MemoryFiles.contents?_insert_of_ne` — a write leaves the other files alone.
* `MemoryFiles.writeText_again` — a write that has succeeded can be repeated.
-/

namespace DtoInterfaces

namespace MemoryFiles

variable {s s' : MemoryFiles} {p q : Path} {ps : List Path} {text : String}

/-! ### Directories -/

/-- **The directories after some have been recorded:** those that were there, and the recorded ones
that are not written as the empty path. -/
theorem isDirectory_addDirectories_iff :
    (s.addDirectories ps).isDirectory q = true ↔
      s.isDirectory q = true ∨ ∃ p ∈ ps, p.isEmpty = false ∧ q.components = p.components := by
  rw [isDirectory, addDirectories, SortedMap.contains_foldl_insert_iff, ← isDirectory]
  simp only [List.mem_filter, Bool.not_eq_true', Path.compare_eq_iff, and_assoc]

theorem addDirectories_eq_self (h : ∀ p ∈ ps, p.isEmpty = false → s.isDirectory p = true) :
    s.addDirectories ps = s := by
  have hsame : (ps.filter fun p => !p.isEmpty).foldl (fun ds p => ds.insert p ()) s.directories =
      s.directories := by
    refine SortedMap.foldl_insert_eq_self fun p hp => ?_
    obtain ⟨hmem, hfull⟩ := List.mem_filter.1 hp
    obtain ⟨_, hfound⟩ := Option.isSome_iff_exists.1 (h p hmem (by simpa using hfull))
    exact hfound
  rw [addDirectories, hsame]

/-- The store with a directory in place, which is made if it is not there. -/
def withDirectory (s : MemoryFiles) (p : Path) : MemoryFiles :=
  if s.isDirectory p then s else s.addDirectory p

@[simp] theorem files_withDirectory : (s.withDirectory p).files = s.files := by
  rw [withDirectory]
  split <;> rfl

@[simp] theorem denied_withDirectory : (s.withDirectory p).denied = s.denied := by
  rw [withDirectory]
  split <;> rfl

/-- What is different when only a directory has been put in place. -/
structure HasGrown (before after : MemoryFiles) (p : Path) : Prop where
  /-- The directory and the paths around it have come, as far as they are not empty, and only if the
  directory was not there. -/
  isDirectory_iff : ∀ q, after.isDirectory q = true ↔ before.isDirectory q = true ∨
    before.isDirectory p = false ∧
      ∃ around ∈ p.ancestors, around.isEmpty = false ∧ q.components = around.components
  /-- The same places are denied. -/
  denied_eq : after.denied = before.denied

/-- Putting a directory in place. -/
theorem hasGrown_withDirectory (s : MemoryFiles) (p : Path) : HasGrown s (s.withDirectory p) p where
  isDirectory_iff q := by
    rw [withDirectory]
    split
    · rename_i hthere
      simp [hthere]
    · rename_i hmissing
      simp [hmissing, addDirectory, isDirectory_addDirectories_iff]
  denied_eq := denied_withDirectory

/-- Putting a directory in place a second time changes nothing. The empty path never becomes a
directory, so it is made again, and again without any effect. -/
@[simp] theorem withDirectory_withDirectory :
    (s.withDirectory p).withDirectory p = s.withDirectory p := by
  cases hthere : s.isDirectory p with
  | true =>
    have hkept : s.withDirectory p = s := if_pos hthere
    rw [hkept, hkept]
  | false =>
    have hmade : s.withDirectory p = s.addDirectory p := if_neg (by simp [hthere])
    rw [hmade, withDirectory]
    split
    · rfl
    · exact addDirectories_eq_self fun around haround hfull =>
        isDirectory_addDirectories_iff.2 (.inr ⟨around, haround, hfull, rfl⟩)

theorem withDirectory_files (files : SortedMap Path String) :
    withDirectory { s with files } p = { s.withDirectory p with files } := by
  have hsame : isDirectory { s with files } p = s.isDirectory p := rfl
  rw [withDirectory, withDirectory, hsame]
  split <;> rfl

theorem HasGrown.isDirectory_of_isDirectory (h : HasGrown s s' p) (hq : s.isDirectory q = true) :
    s'.isDirectory q = true :=
  (h.isDirectory_iff q).2 (.inl hq)

theorem isDenied_congr (h : s.denied = s'.denied) (p : Path) : s.isDenied p = s'.isDenied p := by
  rw [isDenied, isDenied, h]

/-! ### Files -/

theorem hasGrown_of_writeText {path : Path}
    (h : (s.withDirectory p).writeText path text = (.ok (), s')) : HasGrown s s' p := by
  obtain ⟨-, -, rfl⟩ := writeText_eq_ok_iff.1 h
  exact ⟨(hasGrown_withDirectory s p).isDirectory_iff, (hasGrown_withDirectory s p).denied_eq⟩

/-- **A write leaves the other files alone.** -/
theorem contents?_insert_of_ne (h : q.components ≠ p.components) :
    contents? { s with files := s.files.insert p text } q = s.contents? q := by
  have hkey : compare q p ≠ .eq := fun hsame => h (Path.compare_eq_iff.1 hsame)
  rw [contents?, contents?, SortedMap.get?_insert, if_neg hkey]

/-- A write that is refused changes nothing. There is no place for the file or the place is
denied. -/
theorem writeText_eq_error {e : FileError} (h : s.writeText p text = (.error e, s')) :
    s' = s ∧ (s.hasPlaceFor p = false ∨ s.isDenied p = true) := by
  rcases s.writeText_cases p text with ⟨e', hrefused, hreason⟩ | ⟨hwritten, -⟩
  · rw [hrefused] at h
    cases h
    exact ⟨rfl, hreason⟩
  · rw [hwritten] at h
    cases h

/-- A write that has succeeded succeeds again and changes nothing: neither the directories nor what
is denied have changed, and the text is there. -/
theorem writeText_again (h : s.writeText p text = (.ok (), s')) :
    s'.writeText p text = (.ok (), s') := by
  obtain ⟨hplace, hallowed, rfl⟩ := writeText_eq_ok_iff.1 h
  refine writeText_eq_ok_iff.2 ⟨hplace, hallowed, ?_⟩
  have hthere : (s.files.insert p text).get? p = some text := contents?_insert s p text
  simp only [SortedMap.insert_eq_self hthere]

end MemoryFiles

end DtoInterfaces
