import DtoInterfaces.Proofs.FileStore.Disk

/-!
# What an operation on a disk can change

An operation that makes directories and writes files is described by the paths that it is given for
these. Nothing else has changed behind it: every directory is there, with every name that was in it;
a new directory is at one of the paths, and so is every file that is new, gone or different.

## Places and paths

What has changed is said of the places of the tree, and not of the paths that lead there. A path
such as `new/../old` leads nowhere before the directory `new` is made, and to a file that nobody has
touched afterwards. The paths of the operation are followed on the disk that it leaves behind, for
the same reason: the directory of a file may not have been there before.

Something is put into the tree with nothing in it, as a file or as an empty directory. Behind that,
only the directory around it looks different, and not by more than the entry.

## Main definitions

* `Disk.ChangesOnly` — what two disks have in common, up to some directories and files.

## Main results

* `FileTree.get?_put_cases` — what putting something into a tree does to another place.
* `Disk.ChangesOnly.trans` — one operation after another.
* `Disk.changesOnly_createChain` — making a directory and the ones around it.
* `Disk.changesOnly_writeBytes` — writing a file.
-/

namespace DtoInterfaces

namespace FileTree

/-! ### Putting something into a tree -/

variable {new inner t : FileTree} {place rest other : List String} {name : String}
  {entries : List (String × FileTree)}

/-- Whether there is nothing in a tree: it is a file, or a directory without entries. -/
def IsBare (t : FileTree) : Prop := ∀ name, t.child? name = none

theorem isBare_file (contents : ByteArray) : IsBare (file contents) := fun _ => rfl

theorem isBare_directory_nil : IsBare (directory []) := fun _ => rfl

theorem exists_directory_of_append (h : t.get? (place ++ name :: rest) = some inner) :
    ∃ entries, t.get? place = some (directory entries) := by
  rw [get?_append] at h
  obtain ⟨outer, houter, hinner⟩ := Option.bind_eq_some_iff.1 h
  match outer, hinner with
  | directory entries, _ => exact ⟨entries, houter⟩

/-- **Putting something into a tree** leaves what is at another place as it is, unless that is a
directory, which stays one. The other place is below the new one, where there has been nothing and
is nothing; or it is on the way there; or it is neither. -/
theorem get?_put_cases (hbare : new.IsBare) (h : t.get? place = some (directory entries))
    (hfile : ∀ lost, t.get? (place ++ [name]) ≠ some (directory lost))
    (hne : other ≠ place ++ [name]) :
    (put new t (place ++ [name])).get? other = t.get? other ∨
      ∃ before after, t.get? other = some (directory before) ∧
        (put new t (place ++ [name])).get? other = some (directory after) := by
  by_cases hbelow : place ++ [name] <+: other
  · left
    obtain ⟨rest, rfl⟩ := hbelow
    cases rest with
    | nil => exact absurd (List.append_nil _) hne
    | cons next rest =>
      have hafter : (put new t (place ++ [name])).get? (place ++ [name] ++ next :: rest) = none := by
        rw [get?_append, get?_put h, Option.bind_some, get?, hbare, Option.bind_none]
      have hbefore : t.get? (place ++ [name] ++ next :: rest) = none := by
        rw [Option.eq_none_iff_forall_not_mem]
        intro inner hinner
        obtain ⟨lost, hlost⟩ := exists_directory_of_append hinner
        exact hfile lost hlost
      rw [hafter, hbefore]
  · by_cases habove : other <+: place ++ [name]
    · right
      have hkeep : t.KeepsDirectories (put new t (place ++ [name])) := keepsDirectories_put h hfile
      obtain ⟨rest, rfl⟩ : other <+: place := (List.prefix_concat_iff.1 habove).resolve_left hne
      have hother : ∃ before, t.get? other = some (directory before) := by
        cases rest with
        | nil => exact ⟨entries, by rwa [List.append_nil] at h⟩
        | cons next rest => exact exists_directory_of_append h
      obtain ⟨before, hbefore⟩ := hother
      obtain ⟨after, hafter, -⟩ := hkeep other before hbefore
      exact ⟨before, after, hbefore, hafter⟩
    · left
      exact get?_put_elsewhere h hbelow habove

theorem get?_put_eq_file_iff (hbare : new.IsBare) (h : t.get? place = some (directory entries))
    (hfile : ∀ lost, t.get? (place ++ [name]) ≠ some (directory lost))
    (hne : other ≠ place ++ [name]) {contents : ByteArray} :
    (put new t (place ++ [name])).get? other = some (file contents) ↔
      t.get? other = some (file contents) := by
  rcases get?_put_cases hbare h hfile hne with hsame | ⟨before, after, hbefore, hafter⟩
  · rw [hsame]
  · rw [hbefore, hafter]
    simp

theorem exists_directory_of_put (hbare : new.IsBare) (h : t.get? place = some (directory entries))
    (hfile : ∀ lost, t.get? (place ++ [name]) ≠ some (directory lost))
    (hne : other ≠ place ++ [name]) {now : List (String × FileTree)}
    (hnow : (put new t (place ++ [name])).get? other = some (directory now)) :
    ∃ before, t.get? other = some (directory before) := by
  rcases get?_put_cases hbare h hfile hne with hsame | ⟨before, -, hbefore, -⟩
  · exact ⟨now, by rw [← hsame, hnow]⟩
  · exact ⟨before, hbefore⟩

theorem KeepsDirectories.trans {t' t'' : FileTree} (h : t.KeepsDirectories t')
    (h' : t'.KeepsDirectories t'') : t.KeepsDirectories t'' := by
  intro place entries hplace
  obtain ⟨entries', hplace', hnames⟩ := h place entries hplace
  obtain ⟨entries'', hplace'', hnames'⟩ := h' place entries' hplace'
  exact ⟨entries'', hplace'', fun name hname => hnames' name (hnames name hname)⟩

end FileTree

namespace Disk

variable {d d' d'' : Disk} {p q : Path} {place : List String} {contents : ByteArray}
  {directories directories' files files' : List Path}

/-! ### The places of paths -/

/-- The place of a path to a directory. -/
theorem locate_eq_ok_iff_of_directory {entries : List (String × FileTree)}
    (h : d.root.get? place = some (.directory entries)) :
    d.locate p = .ok place ↔
      refusal? p = none ∧ follow d.root (d.startOf p) (segments p) = .ok place := by
  unfold locate
  constructor
  · intro hlocate
    split at hlocate
    · cases hlocate
    · rename_i hrefusal
      obtain ⟨place', hfollow, hlocate⟩ := exists_of_bind_eq_ok hlocate
      split at hlocate
      · cases hlocate
        exact ⟨hrefusal, hfollow⟩
      · rename_i hfile
        split at hlocate
        · cases hlocate
        · cases hlocate
          rw [h] at hfile
          cases hfile
      · cases hlocate
  · rintro ⟨hrefusal, hfollow⟩
    simp only [hrefusal]
    rw [bind_of_eq_ok hfollow]
    simp only [h]

/-- There is something at the place of a path. -/
theorem exists_get?_of_locate (h : d.locate p = .ok place) : ∃ t, d.root.get? place = some t := by
  unfold locate at h
  split at h
  · cases h
  · obtain ⟨place', -, h⟩ := exists_of_bind_eq_ok h
    split at h
    · cases h
      exact ⟨_, ‹_›⟩
    · split at h
      · cases h
      · cases h
        exact ⟨_, ‹_›⟩
    · cases h

/-! ### Changes -/

/-- **What has changed** from one disk to another is at the places of some paths: a directory that
is new is at the place of one of the first paths, and a file that is new, gone or different at the
place of one of the second. No directory is gone, nor any name in one. -/
structure ChangesOnly (d : Disk) (directories files : List Path) (d' : Disk) : Prop where
  workingDirectory_eq : d'.workingDirectory = d.workingDirectory
  keepsDirectories : d.root.KeepsDirectories d'.root
  directory_cases : ∀ place entries, d'.root.get? place = some (.directory entries) →
    (∃ before, d.root.get? place = some (.directory before)) ∨
      ∃ p ∈ directories, d'.locate p = .ok place
  file_iff : ∀ place contents, (∀ p ∈ files, d'.locate p ≠ .ok place) →
    (d'.root.get? place = some (.file contents) ↔ d.root.get? place = some (.file contents))

namespace ChangesOnly

theorem refl (d : Disk) : d.ChangesOnly directories files d where
  workingDirectory_eq := rfl
  keepsDirectories := .refl d.root
  directory_cases _ entries h := .inl ⟨entries, h⟩
  file_iff _ _ _ := .rfl

theorem mono (h : d.ChangesOnly directories files d') (hdirectories : directories ⊆ directories')
    (hfiles : files ⊆ files') : d.ChangesOnly directories' files' d' where
  workingDirectory_eq := h.workingDirectory_eq
  keepsDirectories := h.keepsDirectories
  directory_cases place entries hplace := by
    rcases h.directory_cases place entries hplace with hbefore | ⟨p, hp, hlocate⟩
    · exact .inl hbefore
    · exact .inr ⟨p, hdirectories hp, hlocate⟩
  file_iff place contents hne := h.file_iff place contents fun p hp => hne p (hfiles hp)

theorem startOf_eq (h : d.ChangesOnly directories files d') (q : Path) :
    d'.startOf q = d.startOf q := by
  rw [startOf, startOf, h.workingDirectory_eq]

theorem locate_of_directory (h : d.ChangesOnly directories files d') (hlocate : d.locate q = .ok place)
    {entries : List (String × FileTree)} (hplace : d.root.get? place = some (.directory entries)) :
    d'.locate q = .ok place := by
  obtain ⟨hrefusal, hfollow⟩ := (locate_eq_ok_iff_of_directory hplace).1 hlocate
  obtain ⟨entries', hplace', -⟩ := h.keepsDirectories place entries hplace
  rw [locate_eq_ok_iff_of_directory hplace', h.startOf_eq]
  exact ⟨hrefusal, follow_mono h.keepsDirectories hfollow⟩

/-- **A path leads where it has led,** unless it is a path to a file that may have changed. -/
theorem locate_eq (h : d.ChangesOnly directories files d') (hlocate : d.locate q = .ok place)
    (hne : ∀ p ∈ files, d'.locate p ≠ .ok place) : d'.locate q = .ok place := by
  obtain ⟨t, ht⟩ := exists_get?_of_locate hlocate
  match t, ht with
  | .directory entries, ht => exact h.locate_of_directory hlocate ht
  | .file contents, ht =>
    obtain ⟨hrefusal, hfollow, hslash⟩ := (locate_eq_ok_iff ht).1 hlocate
    rw [locate_eq_ok_iff ((h.file_iff place contents hne).2 ht), h.startOf_eq]
    exact ⟨hrefusal, follow_mono h.keepsDirectories hfollow, hslash⟩

/-- **One operation after another** changes what the two change. -/
theorem trans (h : d.ChangesOnly directories files d') (h' : d'.ChangesOnly directories' files' d'') :
    d.ChangesOnly (directories ++ directories') (files ++ files') d'' where
  workingDirectory_eq := h'.workingDirectory_eq.trans h.workingDirectory_eq
  keepsDirectories := h.keepsDirectories.trans h'.keepsDirectories
  directory_cases place entries hplace := by
    rcases h'.directory_cases place entries hplace with ⟨between, hbetween⟩ | ⟨p, hp, hlocate⟩
    · rcases h.directory_cases place between hbetween with hbefore | ⟨p, hp, hlocate⟩
      · exact .inl hbefore
      · exact .inr ⟨p, List.mem_append_left _ hp, h'.locate_of_directory hlocate hbetween⟩
    · exact .inr ⟨p, List.mem_append_right _ hp, hlocate⟩
  file_iff place contents hne := by
    have hlast : ∀ p ∈ files', d''.locate p ≠ .ok place := fun p hp =>
      hne p (List.mem_append_right _ hp)
    have hfirst : ∀ p ∈ files, d'.locate p ≠ .ok place := fun p hp hlocate =>
      hne p (List.mem_append_left _ hp) (h'.locate_eq hlocate hlast)
    rw [h'.file_iff place contents hlast, h.file_iff place contents hfirst]

end ChangesOnly

/-! ### The operations -/

/-- A directory that has been made was not there. -/
theorem makeDirectory_eq_ok (h : d.makeDirectory p = .ok d') :
    ∃ place name, d.target p = .ok (place, some name) ∧ name.utf8ByteSize ≤ longestName ∧
      d.root.get? (place ++ [name]) = none ∧
      d' = { d with root := FileTree.put (.directory []) d.root (place ++ [name]) } := by
  obtain ⟨⟨place, entry⟩, htarget, h⟩ := exists_of_bind_eq_ok h
  match entry, h with
  | some name, h =>
    simp only at h
    split at h
    · cases h
    · rename_i hlong
      split at h
      · cases h
      · rename_i hthere
        refine ⟨place, name, htarget, by omega, ?_, (Except.ok.inj h).symm⟩
        rwa [Bool.not_eq_true, Option.isSome_eq_false_iff, Option.isNone_iff_eq_none] at hthere

/-- **Making a directory** changes no file, and there is no other new directory. -/
theorem changesOnly_makeDirectory (h : d.makeDirectory p = .ok d') : d.ChangesOnly [p] [] d' := by
  obtain ⟨place, name, htarget, hshort, habsent, rfl⟩ := makeDirectory_eq_ok h
  obtain ⟨hrefusal, -, -, -, -, -, entries, hplace⟩ := target_eq_ok htarget
  have hfile : ∀ lost, d.root.get? (place ++ [name]) ≠ some (.directory lost) := by
    intro lost
    rw [habsent]
    nofun
  have hnew : (FileTree.put (.directory []) d.root (place ++ [name])).get? (place ++ [name]) =
      some (.directory []) :=
    FileTree.get?_put hplace
  refine ⟨rfl, FileTree.keepsDirectories_put hplace hfile, ?_, ?_⟩
  · intro other now hnow
    by_cases hother : other = place ++ [name]
    · subst hother
      right
      exact ⟨p, List.mem_singleton_self p,
        (locate_eq_ok_iff_of_directory hnew).2 ⟨hrefusal, follow_put htarget hshort hfile⟩⟩
    · left
      exact FileTree.exists_directory_of_put FileTree.isBare_directory_nil hplace hfile hother hnow
  · intro other contents _
    by_cases hother : other = place ++ [name]
    · rw [hother, hnew, habsent]
      simp
    · exact FileTree.get?_put_eq_file_iff FileTree.isBare_directory_nil hplace hfile hother

/-- **Making a directory and the ones around it** changes no file, and there is no other new
directory. By induction on the directories, from the inside out: what has been made around a
directory comes before the directory itself. -/
theorem changesOnly_createChain (d : Disk) (ps : List Path) :
    d.ChangesOnly ps [] (d.createChain ps).2 := by
  induction ps generalizing d with
  | nil => exact .refl d
  | cons p outer ih =>
    have hinner : [p] ⊆ p :: outer := List.cons_subset.2 ⟨List.mem_cons_self, List.nil_subset _⟩
    have houter : outer ⊆ p :: outer := List.subset_cons_self p outer
    rw [createChain]
    split
    · exact .refl d
    · split
      · rename_i made hmade
        exact (changesOnly_makeDirectory hmade).mono hinner (List.nil_subset [])
      · have haround : d.ChangesOnly (p :: outer) [] (d.createChain outer).2 :=
          (ih d).mono houter (List.nil_subset [])
        split
        · rename_i e around hrest
          rwa [hrest] at haround
        · rename_i around hrest
          rw [hrest] at haround
          split
          · rename_i made hmade
            exact (haround.trans (changesOnly_makeDirectory hmade)).mono
              (List.append_subset.2 ⟨List.Subset.refl _, hinner⟩) (List.nil_subset [])
          · exact haround
      · exact .refl d

/-- **Writing a file** changes no other file, and there is no new directory. -/
theorem changesOnly_writeBytes (h : d.writeBytes p contents = .ok d') : d.ChangesOnly [] [p] d' := by
  obtain ⟨place, name, htarget, hlocate, hread⟩ := locate_writeBytes h
  obtain ⟨place', name', htarget', -, -, hfile, rfl⟩ := writeBytes_eq_ok h
  obtain ⟨rfl, rfl⟩ : place = place' ∧ name = name' := by
    rw [htarget] at htarget'
    simpa using htarget'
  obtain ⟨-, -, -, -, -, -, entries, hplace⟩ := target_eq_ok htarget
  refine ⟨rfl, FileTree.keepsDirectories_put hplace hfile, ?_, ?_⟩
  · intro other now hnow
    have hother : other ≠ place ++ [name] := by
      rintro rfl
      rw [hread] at hnow
      cases hnow
    left
    exact FileTree.exists_directory_of_put (FileTree.isBare_file contents) hplace hfile hother hnow
  · intro other contents' hne
    have hother : other ≠ place ++ [name] := by
      rintro rfl
      exact hne p (List.mem_singleton_self p) hlocate
    exact FileTree.get?_put_eq_file_iff (FileTree.isBare_file contents) hplace hfile hother

theorem changesOnly_settle_writeBytes (d : Disk) (p : Path) (contents : ByteArray) :
    d.ChangesOnly [] [p] (d.settle (d.writeBytes p contents)).2 := by
  match hwrite : d.writeBytes p contents with
  | .ok d' => exact changesOnly_writeBytes hwrite
  | .error e => exact .refl d

end Disk

end DtoInterfaces
