import DtoInterfaces.FileStore.Memory

/-!
# Laws of file stores

What an export relies on of the files it works with: looking changes nothing, and a file that has
been written reads back. The laws are stated for a store that is a state, so that what an export
does can be said once for all of them. A store in memory obeys the laws; that a disk does is
shown where trees are looked into.

No law says what a refused operation leaves behind. A directory that could not be made may have
left the ones around it, and that differs from store to store.

## Main definitions

* `LawfulFileStore` — the laws.

## Main results

* `MemoryFiles.writeText_cases`, `MemoryFiles.createDirectories_cases` — what the operations on
  files in memory can do.
* the `LawfulFileStore` of files in memory.
-/

namespace DtoInterfaces

/-- One computation after another: the second one starts in the state that the first one leaves. -/
theorem run_bind_state {σ α β : Type} (x : StateM σ α) (f : α → StateM σ β) (s : σ) :
    (x >>= f).run s = (f (x.run s).1).run (x.run s).2 := rfl

/-- The laws of a file store that is a state. -/
class LawfulFileStore (σ : Type) [FileStore (StateM σ)] : Prop where
  /-- Asking for a directory changes nothing. -/
  isDirectory_state (p : Path) (s : σ) : ((FileStore.isDirectory p : StateM σ Bool).run s).2 = s
  /-- Listing files changes nothing. -/
  filesBelow_state (root : Path) (extension : String) (s : σ) :
    ((FileStore.filesBelow root extension : StateM σ (List Path)).run s).2 = s
  /-- Reading changes nothing. -/
  readText_state (p : Path) (s : σ) :
    ((FileStore.readText p : StateM σ (Except FileError String)).run s).2 = s
  /-- A file that has been written reads back. -/
  readText_writeText {p : Path} {text : String} {s s' : σ} :
    (FileStore.writeText p text : StateM σ (Except FileError Unit)).run s = (.ok (), s') →
      (FileStore.readText p : StateM σ (Except FileError String)).run s' = (.ok text, s')

namespace MemoryFiles

theorem contents?_insert (s : MemoryFiles) (p : Path) (text : String) :
    contents? { s with files := s.files.insert p text } p = some text := by
  have hself : compare p p = .eq := Path.compare_eq_iff.2 rfl
  rw [contents?, SortedMap.get?_insert, if_pos hself]

/-- **What a write can do.** It is refused and changes nothing; or there is a place for the file that
is not denied, and the write puts the file in the table and does nothing else. -/
theorem writeText_cases (s : MemoryFiles) (p : Path) (text : String) :
    (∃ e, s.writeText p text = (.error e, s) ∧
      (s.hasPlaceFor p = false ∨ s.isDenied p = true)) ∨
    (s.writeText p text = (.ok (), { s with files := s.files.insert p text }) ∧
      s.hasPlaceFor p = true ∧ s.isDenied p = false) := by
  rw [writeText]
  cases s.hasPlaceFor p with
  | false => exact .inl ⟨_, rfl, .inl rfl⟩
  | true =>
    cases s.isDenied p with
    | true => exact .inl ⟨_, rfl, .inr rfl⟩
    | false => exact .inr ⟨rfl, rfl, rfl⟩

/-- **What making a directory can do.** It is refused and changes nothing, or the directory is not
denied. -/
theorem createDirectories_cases (s : MemoryFiles) (p : Path) :
    (∃ e, s.createDirectories p = (.error e, s) ∧ s.isDenied p = true) ∨
    (s.createDirectories p = (.ok (), s.addDirectory p) ∧ s.isDenied p = false) := by
  rw [createDirectories]
  cases s.isDenied p with
  | true => exact .inl ⟨_, rfl, rfl⟩
  | false => exact .inr ⟨rfl, rfl⟩

theorem writeText_eq_ok_iff {s s' : MemoryFiles} {p : Path} {text : String} :
    s.writeText p text = (.ok (), s') ↔
      s.hasPlaceFor p = true ∧ s.isDenied p = false ∧
        s' = { s with files := s.files.insert p text } := by
  rw [writeText]
  cases s.hasPlaceFor p <;> cases s.isDenied p <;> simp [eq_comm]

instance : LawfulFileStore MemoryFiles where
  isDirectory_state _ _ := rfl
  filesBelow_state _ _ _ := rfl
  readText_state _ _ := rfl
  readText_writeText {p text s s'} h := by
    have hwrite : s.writeText p text = (.ok (), s') := h
    have hread : s'.readText p = .ok text := by
      rw [(writeText_eq_ok_iff.1 hwrite).2.2, readText, contents?_insert]
    change (s'.readText p, s') = (.ok text, s')
    rw [hread]

end MemoryFiles

end DtoInterfaces
