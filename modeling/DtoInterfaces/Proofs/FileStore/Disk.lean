import DtoInterfaces.FileStore.Disk
import DtoInterfaces.Proofs.FileStore.Lawful

/-!
# Writing to a disk

A file that is written to a disk reads back. Reading follows the path through the tree once more,
and the tree has changed, so what has to be seen is that the path still leads to the same place.
It does because a write takes no directory away: it adds an entry to one, or puts a file in the
place of a file. Following a path asks for nothing but directories and for names in them. For the
same reason every file at another place is there afterwards, as it was.

## Main definitions

* `FileTree.KeepsDirectories` — one tree has the directories of another, and the names in them.

## Main results

* `FileTree.get?_put`, `FileTree.get?_put_elsewhere`, `FileTree.keepsDirectories_put` — what
  writing does to a tree.
* `Disk.follow_mono` — paths lead to the same places as before.
* `Disk.follow_put` — a path leads to what has been put at its target.
* `Disk.tree?_writeBytes` — what has been written is there.
* `Disk.tree?_writeBytes_of_ne` — files at other places stay.
* the `LawfulFileStore` of disks.
-/

namespace DtoInterfaces

namespace FileTree

/-! ### Trees -/

variable {new t t' : FileTree} {place : List String} {name : String}

theorem findEntry_insertEntry_string {α : Type} (name other : String) (value : α)
    (entries : List (String × α)) :
    findEntry other (insertEntry name value entries) =
      if other = name then some value else findEntry other entries := by
  simp only [findEntry_insertEntry, Std.LawfulEqOrd.compare_eq_iff_eq]

theorem get?_directory_cons (entries : List (String × FileTree)) (name : String)
    (place : List String) :
    (directory entries).get? (name :: place) = (findEntry name entries).bind fun t => t.get? place :=
  rfl

theorem get?_append (t : FileTree) (outer inner : List String) :
    t.get? (outer ++ inner) = (t.get? outer).bind fun t => t.get? inner := by
  induction outer generalizing t with
  | nil => rfl
  | cons name outer ih =>
    rw [List.cons_append, get?, get?, Option.bind_assoc]
    exact Option.bind_congr fun t _ => ih t

theorem put_cons {entries : List (String × FileTree)} (h : findEntry name entries = some t)
    (place : List String) :
    put new (directory entries) (name :: place) =
      directory (insertEntry name (put new t place) entries) := by
  cases place with
  | nil => rw [put, put]
  | cons name' place =>
    rw [put, h]
    simp

/-- **Read after write.** -/
theorem get?_put {entries : List (String × FileTree)} (h : t.get? place = some (directory entries)) :
    (put new t (place ++ [name])).get? (place ++ [name]) = some new := by
  induction place generalizing t with
  | nil =>
    cases h
    rw [List.nil_append, put, get?_directory_cons, findEntry_insertEntry_string, if_pos rfl]
    rfl
  | cons first place ih =>
    cases t with
    | file contents => cases h
    | directory outer =>
      obtain ⟨inner, hinner, hplace⟩ := Option.bind_eq_some_iff.1 h
      rw [List.cons_append, put_cons hinner, get?_directory_cons, findEntry_insertEntry_string,
        if_pos rfl]
      exact ih hplace

/-- **Writing changes nothing elsewhere**, that is, at places that are neither at or below what is
written nor on the way to it. By induction on the way that the two places have in common. -/
theorem get?_put_elsewhere {entries : List (String × FileTree)} {other : List String}
    (h : t.get? place = some (directory entries)) (hbelow : ¬ place ++ [name] <+: other)
    (habove : ¬ other <+: place ++ [name]) :
    (put new t (place ++ [name])).get? other = t.get? other := by
  induction place generalizing t other with
  | nil =>
    cases h
    cases other with
    | nil => exact absurd List.nil_prefix habove
    | cons first rest =>
      have hfirst : first ≠ name := by
        rintro rfl
        exact hbelow (List.prefix_append [first] rest)
      rw [List.nil_append, put, get?_directory_cons, findEntry_insertEntry_string, if_neg hfirst,
        get?_directory_cons]
  | cons next place ih =>
    cases t with
    | file contents => cases h
    | directory outer =>
      rw [get?_directory_cons] at h
      obtain ⟨inner, hinner, hplace⟩ := Option.bind_eq_some_iff.1 h
      cases other with
      | nil => exact absurd List.nil_prefix habove
      | cons first rest =>
        rw [List.cons_append, put_cons hinner, get?_directory_cons, findEntry_insertEntry_string,
          get?_directory_cons]
        by_cases hfirst : first = next
        · subst hfirst
          rw [List.cons_append, List.prefix_cons_inj] at hbelow habove
          rw [if_pos rfl, Option.bind_some, ih hplace hbelow habove, hinner, Option.bind_some]
        · rw [if_neg hfirst]

theorem get?_append_ne_directory {contents : ByteArray} (h : t.get? place = some (file contents))
    (rest : List String) (entries : List (String × FileTree)) :
    t.get? (place ++ rest) ≠ some (directory entries) := by
  rw [get?_append, h, Option.bind_some]
  cases rest <;> rintro ⟨⟩

/-- **Files at other places stay** unless a directory is written over. -/
theorem get?_put_of_ne {entries : List (String × FileTree)} {other : List String}
    {contents : ByteArray} (h : t.get? place = some (directory entries))
    (hfile : ∀ lost, t.get? (place ++ [name]) ≠ some (directory lost))
    (hne : other ≠ place ++ [name]) (hother : t.get? other = some (file contents)) :
    (put new t (place ++ [name])).get? other = some (file contents) := by
  have hbelow : ¬ place ++ [name] <+: other := by
    rintro ⟨rest, rfl⟩
    cases rest with
    | nil => exact hne (List.append_nil _)
    | cons next rest =>
      rw [get?_append] at hother
      obtain ⟨old, hold, hrest⟩ := Option.bind_eq_some_iff.1 hother
      cases old with
      | file contents => cases hrest
      | directory lost => exact hfile lost hold
  have habove : ¬ other <+: place ++ [name] := by
    intro habove
    rcases List.prefix_concat_iff.1 habove with heq | ⟨rest, rfl⟩
    · exact hne heq
    · exact get?_append_ne_directory hother rest entries h
  rw [get?_put_elsewhere h hbelow habove, hother]

/-- One tree has every directory of another, and every name that is in it there. -/
def KeepsDirectories (t t' : FileTree) : Prop :=
  ∀ place entries, t.get? place = some (directory entries) →
    ∃ entries', t'.get? place = some (directory entries') ∧
      ∀ name, (findEntry name entries).isSome → (findEntry name entries').isSome

theorem KeepsDirectories.refl (t : FileTree) : KeepsDirectories t t :=
  fun _ entries h => ⟨entries, h, fun _ h => h⟩

/-- Writing an entry keeps the directories if what was there had no directory that is lost. -/
theorem keepsDirectories_insertEntry {entries : List (String × FileTree)}
    (h : ∀ t, findEntry name entries = some t → KeepsDirectories t new) :
    KeepsDirectories (directory entries) (directory (insertEntry name new entries)) := by
  intro place found hfound
  cases place with
  | nil =>
    cases hfound
    refine ⟨_, rfl, fun other hother => ?_⟩
    rw [findEntry_insertEntry_string]
    split
    · rfl
    · exact hother
  | cons other place =>
    rw [get?_directory_cons] at hfound
    rw [get?_directory_cons, findEntry_insertEntry_string]
    split
    · rename_i heq
      subst heq
      obtain ⟨t, ht, hplace⟩ := Option.bind_eq_some_iff.1 hfound
      exact h t ht place found hplace
    · exact ⟨found, hfound, fun _ h => h⟩

/-- **Writing takes no directory away** unless one stands where it writes. -/
theorem keepsDirectories_put {entries : List (String × FileTree)}
    (h : t.get? place = some (directory entries))
    (hfile : ∀ lost, t.get? (place ++ [name]) ≠ some (directory lost)) :
    KeepsDirectories t (put new t (place ++ [name])) := by
  induction place generalizing t with
  | nil =>
    cases h
    refine keepsDirectories_insertEntry fun old hold place found hfound => ?_
    rw [List.nil_append, get?_directory_cons, hold] at hfile
    cases old with
    | file contents => cases place <;> cases hfound
    | directory lost => exact absurd rfl (hfile lost)
  | cons first place ih =>
    cases t with
    | file contents => cases h
    | directory outer =>
      rw [get?_directory_cons] at h
      obtain ⟨inner, hinner, hplace⟩ := Option.bind_eq_some_iff.1 h
      rw [List.cons_append, get?_directory_cons, hinner] at hfile
      rw [List.cons_append, put_cons hinner]
      refine keepsDirectories_insertEntry fun old hold => ?_
      rw [hinner, Option.some.injEq] at hold
      exact hold ▸ ih hplace hfile

end FileTree

namespace Disk

/-! ### Following paths -/

variable {d d' : Disk} {p : Path} {contents : ByteArray}

theorem exists_of_bind_eq_ok {ε α β : Type} {x : Except ε α} {f : α → Except ε β} {b : β}
    (h : x.bind f = .ok b) : ∃ a, x = .ok a ∧ f a = .ok b := by
  cases x with
  | error e => cases h
  | ok a => exact ⟨a, rfl, h⟩

theorem bind_of_eq_ok {ε α β : Type} {x : Except ε α} {f : α → Except ε β} {a : α}
    (h : x = .ok a) : x >>= f = f a := by
  rw [h]
  rfl

/-- Following some segments and then some more. -/
theorem follow_append (root : FileTree) (place first second : List String) :
    follow root place (first ++ second) =
      (follow root place first).bind fun place => follow root place second := by
  induction first generalizing place with
  | nil => rfl
  | cons segment first ih =>
    rw [List.cons_append, follow, follow]
    split
    · rfl
    · rfl
    · split
      · exact ih _
      · split
        · exact ih _
        · split
          · rfl
          · split
            · rfl
            · exact ih _

/-- **A path leads where it led before** if no directory is lost on the way. -/
theorem follow_mono {root root' : FileTree} (hkeep : root.KeepsDirectories root')
    {start segments place : List String} (h : follow root start segments = .ok place) :
    follow root' start segments = .ok place := by
  induction segments generalizing start with
  | nil => exact h
  | cons segment segments ih =>
    rw [follow] at h ⊢
    split at h
    · cases h
    · cases h
    · rename_i entries hstart
      obtain ⟨entries', hstart', hnames⟩ := hkeep start entries hstart
      simp only [hstart']
      split at h
      · rw [if_pos ‹_›]
        exact ih h
      · rw [if_neg ‹_›]
        split at h
        · rw [if_pos ‹_›]
          exact ih h
        · rw [if_neg ‹_›]
          split at h
          · cases h
          · rw [if_neg ‹_›]
            split at h
            · cases h
            · rename_i hfound
              have hfound' : ¬ (findEntry segment entries').isNone = true := by
                have hsome := hnames segment (by simpa [Option.isSome_iff_ne_none] using hfound)
                simpa [Option.isSome_iff_ne_none] using hsome
              rw [if_neg hfound']
              exact ih h

/-- The place that a path names for an entry, taken apart. -/
theorem target_eq_ok {place : List String} {name : String}
    (h : d.target p = .ok (place, some name)) :
    refusal? p = none ∧ name ≠ "." ∧ name ≠ ".." ∧
      ∃ outer, segments p = outer ++ [name] ∧ follow d.root (d.startOf p) outer = .ok place ∧
        ∃ entries, d.root.get? place = some (.directory entries) := by
  unfold target at h
  split at h
  · cases h
  · rename_i hrefusal
    split at h
    · cases h
    · rename_i last outer hsegments
      obtain ⟨place', hfollow, h⟩ := exists_of_bind_eq_ok h
      split at h
      · rename_i entries hplace
        split at h
        · cases h
        · rename_i hdots
          cases h
          rw [not_or] at hdots
          refine ⟨hrefusal, hdots.1, hdots.2, outer.reverse, ?_, hfollow, entries, hplace⟩
          rw [← List.reverse_cons, ← hsegments, List.reverse_reverse]
      · cases h

/-- A write that succeeds puts the file in the place of an entry that is no directory. -/
theorem writeBytes_eq_ok (h : d.writeBytes p contents = .ok d') :
    ∃ place name, d.target p = .ok (place, some name) ∧ endsWithSlash p = false ∧
      name.utf8ByteSize ≤ longestName ∧
      (∀ lost, d.root.get? (place ++ [name]) ≠ some (.directory lost)) ∧
      d' = { d with root := FileTree.put (.file contents) d.root (place ++ [name]) } := by
  obtain ⟨⟨place, entry⟩, htarget, h⟩ := exists_of_bind_eq_ok h
  cases entry with
  | none => cases h
  | some name =>
    simp only at h
    split at h
    · cases h
    · rename_i hslash
      split at h
      · cases h
      · rename_i hlong
        split at h
        · cases h
        · rename_i hfile
          refine ⟨place, name, htarget, by simpa using hslash, by omega, ?_, ?_⟩
          · intro lost hlost
            exact hfile lost hlost
          · exact (Except.ok.inj h).symm

/-- The place of a path to a file. -/
theorem locate_eq_ok_iff {place : List String}
    (hfile : d.root.get? place = some (.file contents)) :
    d.locate p = .ok place ↔ refusal? p = none ∧
      follow d.root (d.startOf p) (segments p) = .ok place ∧ endsWithSlash p = false := by
  unfold locate
  constructor
  · intro h
    split at h
    · cases h
    · rename_i hrefusal
      obtain ⟨place', hfollow, h⟩ := exists_of_bind_eq_ok h
      split at h
      · rename_i hplace
        cases h
        rw [hfile] at hplace
        cases hplace
      · split at h
        · cases h
        · rename_i hslash
          cases h
          exact ⟨hrefusal, hfollow, by simpa using hslash⟩
      · cases h
  · rintro ⟨hrefusal, hfollow, hslash⟩
    simp only [hrefusal]
    rw [bind_of_eq_ok hfollow]
    simp only [hfile, hslash, Bool.false_eq_true, if_false]

theorem tree?_of_locate {place : List String} {t : FileTree} (h : d.locate p = .ok place)
    (ht : d.root.get? place = some t) : d.tree? p = .ok t := by
  rw [tree?, bind_of_eq_ok h]
  simp only [ht]

/-- **A path leads to what has been put at its target,** unless the name of that is too long. -/
theorem follow_put {new : FileTree} {place : List String} {name : String}
    (htarget : d.target p = .ok (place, some name)) (hshort : name.utf8ByteSize ≤ longestName)
    (hfile : ∀ lost, d.root.get? (place ++ [name]) ≠ some (.directory lost)) :
    follow (FileTree.put new d.root (place ++ [name])) (d.startOf p) (segments p) =
      .ok (place ++ [name]) := by
  obtain ⟨-, hdot, hdots, outer, hsegments, hfollow, entries, hplace⟩ := target_eq_ok htarget
  have hkeep : d.root.KeepsDirectories (FileTree.put new d.root (place ++ [name])) :=
    FileTree.keepsDirectories_put hplace hfile
  have hread : (FileTree.put new d.root (place ++ [name])).get? (place ++ [name]) = some new :=
    FileTree.get?_put hplace
  obtain ⟨entries', hplace', -⟩ := hkeep place entries hplace
  have hentry : findEntry name entries' = some new := by
    rw [FileTree.get?_append, hplace', Option.bind_some, FileTree.get?_directory_cons] at hread
    simpa [FileTree.get?] using hread
  have hlast : follow (FileTree.put new d.root (place ++ [name])) place [name] =
      .ok (place ++ [name]) := by
    rw [follow]
    simp only [hplace', if_neg hdot, if_neg hdots, if_neg (Nat.not_lt.2 hshort), hentry,
      Option.isNone_some, Bool.false_eq_true, if_false]
    rfl
  rw [hsegments, follow_append, follow_mono hkeep hfollow]
  exact hlast

/-- **What has been written** has the place that the path has named. -/
theorem locate_writeBytes (h : d.writeBytes p contents = .ok d') :
    ∃ place name, d.target p = .ok (place, some name) ∧ d'.locate p = .ok (place ++ [name]) ∧
      d'.root.get? (place ++ [name]) = some (.file contents) := by
  obtain ⟨place, name, htarget, hslash, hshort, hfile, rfl⟩ := writeBytes_eq_ok h
  obtain ⟨hrefusal, -, -, -, -, -, entries, hplace⟩ := target_eq_ok htarget
  have hread : (FileTree.put (.file contents) d.root (place ++ [name])).get? (place ++ [name]) =
      some (.file contents) :=
    FileTree.get?_put hplace
  exact ⟨place, name, htarget,
    (locate_eq_ok_iff hread).2 ⟨hrefusal, follow_put htarget hshort hfile, hslash⟩, hread⟩

/-- **What has been written is there.** -/
theorem tree?_writeBytes (h : d.writeBytes p contents = .ok d') :
    d'.tree? p = .ok (.file contents) := by
  obtain ⟨place, name, -, hlocate, hread⟩ := locate_writeBytes h
  exact tree?_of_locate hlocate hread

/-- **A file at another place** is there as before. -/
theorem tree?_writeBytes_of_ne {q : Path} {contents' : ByteArray} {place : List String}
    (hlocate : d.locate p = .ok place) (hread : d.root.get? place = some (.file contents))
    (hne : ∀ place' name, d.target q = .ok (place', some name) → place ≠ place' ++ [name])
    (h : d.writeBytes q contents' = .ok d') : d'.tree? p = .ok (.file contents) := by
  obtain ⟨hrefusal, hfollow, hslash⟩ := (locate_eq_ok_iff hread).1 hlocate
  obtain ⟨place', name, htarget, -, -, hfile, rfl⟩ := writeBytes_eq_ok h
  obtain ⟨-, -, -, -, -, -, entries, hplace'⟩ := target_eq_ok htarget
  have hkeep : d.root.KeepsDirectories
      (FileTree.put (.file contents') d.root (place' ++ [name])) :=
    FileTree.keepsDirectories_put hplace' hfile
  have hread' : (FileTree.put (.file contents') d.root (place' ++ [name])).get? place =
      some (.file contents) :=
    FileTree.get?_put_of_ne hplace' hfile (hne place' name htarget) hread
  exact tree?_of_locate
    ((locate_eq_ok_iff hread').2 ⟨hrefusal, follow_mono hkeep hfollow, hslash⟩) hread'

theorem getLast?_segments_of_target {place : List String} {name : String}
    (h : d.target p = .ok (place, some name)) : (segments p).getLast? = some name := by
  obtain ⟨-, -, -, outer, hsegments, -⟩ := target_eq_ok h
  rw [hsegments, List.getLast?_concat]

theorem fromUTF8?_toUTF8 (text : String) : String.fromUTF8? text.toUTF8 = some text := by
  have hvalid : text.toUTF8.IsValidUTF8 := text.isValidUTF8
  rw [String.fromUTF8?, dif_pos hvalid]
  rfl

theorem readText_of_tree? {text : String} (h : d.tree? p = .ok (.file text.toUTF8)) :
    d.readText p = .ok text := by
  rw [readText, bind_of_eq_ok h]
  simp only [fromUTF8?_toUTF8]

theorem readText_writeBytes {text : String} (h : d.writeBytes p text.toUTF8 = .ok d') :
    d'.readText p = .ok text :=
  readText_of_tree? (tree?_writeBytes h)

/-- A text stays if a file is written under another name, in whatever directory. -/
theorem readText_writeBytes_writeBytes {d'' : Disk} {q : Path} {text : String}
    (hname : (segments p).getLast? ≠ (segments q).getLast?)
    (h : d.writeBytes p text.toUTF8 = .ok d') (h' : d'.writeBytes q contents = .ok d'') :
    d''.readText p = .ok text := by
  obtain ⟨place, name, htarget, hlocate, hread⟩ := locate_writeBytes h
  have hne : ∀ place' name', d'.target q = .ok (place', some name') →
      place ++ [name] ≠ place' ++ [name'] := by
    intro place' name' htarget' heq
    have hlast := congrArg List.getLast? heq
    rw [List.getLast?_concat, List.getLast?_concat] at hlast
    apply hname
    rw [getLast?_segments_of_target htarget, getLast?_segments_of_target htarget', hlast]
  exact readText_of_tree? (tree?_writeBytes_of_ne hlocate hread hne h')

theorem settle_eq_ok {result : Except SystemError Disk} (h : d.settle result = (.ok (), d')) :
    result = .ok d' := by
  cases result with
  | ok after => rw [← (Prod.mk.inj h).2]
  | error e => cases (Prod.mk.inj h).1

instance : LawfulFileStore Disk where
  isDirectory_state _ _ := rfl
  filesBelow_state _ _ _ := rfl
  readText_state _ _ := rfl
  readText_writeText {p text s s'} h := by
    have hwrite : s.writeBytes p text.toUTF8 = .ok s' := settle_eq_ok h
    change ((s'.readText p).mapError FileError.system, s') = (.ok text, s')
    rw [readText_writeBytes hwrite]
    rfl

end Disk

end DtoInterfaces
