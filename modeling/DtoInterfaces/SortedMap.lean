/-!
# Maps sorted by their keys

A map whose entries stand in the order of their keys, so that listing it does not show in which
order it was filled. Keys are told apart by their order alone: two spellings that compare as
equal are one key. The first spelling that was written stays, and later writes change the value
only.

## Main definitions

* `SortedMap` — the maps.
* `SortedMap.get?`, `SortedMap.insert` — read and write.

## Main results

* `SortedMap.get?_insert` — read after write.
* `SortedMap.get?_congr` — the spelling of a key does not matter for reading.
-/

namespace DtoInterfaces

/-! ### Entries -/

section Entries

variable {κ α : Type} [Ord κ]

/-- Write an entry in its place; a key that is there keeps its spelling. -/
def insertEntry (key : κ) (value : α) : List (κ × α) → List (κ × α)
  | [] => [(key, value)]
  | (key', value') :: entries =>
    match compare key key' with
    | .lt => (key, value) :: (key', value') :: entries
    | .eq => (key', value) :: entries
    | .gt => (key', value') :: insertEntry key value entries

/-- The value of the first entry with the key. -/
def findEntry (key : κ) : List (κ × α) → Option α
  | [] => none
  | (key', value') :: entries =>
    if compare key key' = .eq then some value' else findEntry key entries

/-- The keys after writing: the old ones, and the new one if it is not there in any spelling. -/
theorem mem_insertEntry_key {key : κ} {value : α} {entries : List (κ × α)} {e : κ × α}
    (h : e ∈ insertEntry key value entries) : e.1 = key ∨ ∃ f ∈ entries, f.1 = e.1 := by
  induction entries with
  | nil =>
    simp only [insertEntry, List.mem_singleton] at h
    exact .inl (by rw [h])
  | cons entry entries ih =>
    obtain ⟨key', value'⟩ := entry
    rw [insertEntry] at h
    split at h
    · rcases List.mem_cons.1 h with rfl | h
      · exact .inl rfl
      · exact .inr ⟨e, h, rfl⟩
    · rcases List.mem_cons.1 h with rfl | h
      · exact .inr ⟨(key', value'), by simp, rfl⟩
      · exact .inr ⟨e, by simp [h], rfl⟩
    · rcases List.mem_cons.1 h with rfl | h
      · exact .inr ⟨(key', value'), by simp, rfl⟩
      · rcases ih h with h | ⟨f, hf, hkey⟩
        · exact .inl h
        · exact .inr ⟨f, by simp [hf], hkey⟩

/-- Writing keeps the entries sorted. -/
theorem pairwise_insertEntry [Std.TransOrd κ] {key : κ} {value : α} {entries : List (κ × α)}
    (h : entries.Pairwise fun e f => compare e.1 f.1 = .lt) :
    (insertEntry key value entries).Pairwise fun e f => compare e.1 f.1 = .lt := by
  induction entries with
  | nil => simp [insertEntry]
  | cons entry entries ih =>
    obtain ⟨key', value'⟩ := entry
    rw [List.pairwise_cons] at h
    rw [insertEntry]
    split
    · rename_i hlt
      refine List.pairwise_cons.2 ⟨fun f hf => ?_, List.pairwise_cons.2 h⟩
      rcases List.mem_cons.1 hf with rfl | hf
      · exact hlt
      · exact Std.TransCmp.lt_trans hlt (h.1 f hf)
    · exact List.pairwise_cons.2 ⟨h.1, h.2⟩
    · rename_i hgt
      refine List.pairwise_cons.2 ⟨fun f hf => ?_, ih h.2⟩
      rcases mem_insertEntry_key hf with hkey | ⟨g, hg, hkey⟩
      · rw [hkey]
        exact Std.OrientedCmp.gt_iff_lt.1 hgt
      · rw [← hkey]
        exact h.1 g hg

/-- Reading after writing an entry. -/
theorem findEntry_insertEntry [Std.TransOrd κ] (key other : κ) (value : α)
    (entries : List (κ × α)) :
    findEntry other (insertEntry key value entries) =
      if compare other key = .eq then some value else findEntry other entries := by
  induction entries with
  | nil => rfl
  | cons entry entries ih =>
    obtain ⟨key', value'⟩ := entry
    rw [insertEntry]
    split
    · rfl
    · rename_i heq
      have hsame : compare other key = compare other key' := Std.TransCmp.congr_right heq
      rw [findEntry, findEntry, hsame]
      split <;> rfl
    · rename_i hgt
      rw [findEntry, findEntry, ih]
      by_cases h : compare other key = .eq
      · have hne : compare other key' ≠ .eq := by
          rw [Std.TransCmp.congr_left h, hgt]
          decide
        rw [if_pos h, if_pos h, if_neg hne]
      · rw [if_neg h, if_neg h]

theorem exists_mem_of_findEntry {key : κ} {value : α} {entries : List (κ × α)}
    (h : findEntry key entries = some value) : ∃ key', (key', value) ∈ entries := by
  induction entries with
  | nil => cases h
  | cons entry entries ih =>
    obtain ⟨key', value'⟩ := entry
    rw [findEntry] at h
    split at h
    · cases h
      exact ⟨key', List.mem_cons_self⟩
    · obtain ⟨key'', hmem⟩ := ih h
      exact ⟨key'', List.mem_cons_of_mem _ hmem⟩

theorem findEntry_congr [Std.TransOrd κ] {key key' : κ} (h : compare key key' = .eq)
    (entries : List (κ × α)) : findEntry key entries = findEntry key' entries := by
  induction entries with
  | nil => rfl
  | cons entry entries ih => rw [findEntry, findEntry, ih, Std.TransCmp.congr_left h]

end Entries

/-! ### Maps -/

/-- A map whose entries are sorted by their keys. -/
structure SortedMap (κ α : Type) [Ord κ] where
  entries : List (κ × α)
  /-- The keys strictly increase. -/
  sorted : entries.Pairwise fun e f => compare e.1 f.1 = .lt

namespace SortedMap

variable {κ α : Type} [Ord κ]

/-- The map without entries. -/
def empty : SortedMap κ α := ⟨[], .nil⟩

instance : Inhabited (SortedMap κ α) := ⟨empty⟩

@[ext] theorem ext {m m' : SortedMap κ α} (h : m.entries = m'.entries) : m = m' := by
  cases m
  cases m'
  simp_all

/-- The entries in order. -/
def toList (m : SortedMap κ α) : List (κ × α) := m.entries

/-- The keys in order, each as it was first written. -/
def keys (m : SortedMap κ α) : List κ := m.entries.map Prod.fst

/-- The number of keys. -/
def size (m : SortedMap κ α) : Nat := m.entries.length

/-- Whether there is no key. -/
def isEmpty (m : SortedMap κ α) : Bool := m.entries.isEmpty

/-- The value of a key. -/
def get? (m : SortedMap κ α) (key : κ) : Option α := findEntry key m.entries

/-- Whether a key has a value. -/
def contains (m : SortedMap κ α) (key : κ) : Bool := (m.get? key).isSome

/-- Write a value. -/
def insert [Std.TransOrd κ] (m : SortedMap κ α) (key : κ) (value : α) : SortedMap κ α :=
  ⟨insertEntry key value m.entries, pairwise_insertEntry m.sorted⟩

/-! ### One lemma per operation -/

@[simp] theorem get?_empty (key : κ) : (empty : SortedMap κ α).get? key = none := rfl

/-- Read after write. -/
theorem get?_insert [Std.TransOrd κ] (m : SortedMap κ α) (key other : κ) (value : α) :
    (m.insert key value).get? other =
      if compare other key = .eq then some value else m.get? other :=
  findEntry_insertEntry key other value m.entries

/-- The spelling of a key does not matter for reading. -/
theorem get?_congr [Std.TransOrd κ] (m : SortedMap κ α) {key key' : κ}
    (h : compare key key' = .eq) : m.get? key = m.get? key' :=
  findEntry_congr h m.entries

theorem exists_mem_of_get? {m : SortedMap κ α} {key : κ} {value : α}
    (h : m.get? key = some value) : ∃ key', (key', value) ∈ m.toList :=
  exists_mem_of_findEntry h

theorem pairwise_keys (m : SortedMap κ α) : m.keys.Pairwise fun k k' => compare k k' = .lt :=
  List.pairwise_map.2 m.sorted

end SortedMap

end DtoInterfaces
