import DtoInterfaces.SortedMap
import Mathlib.Data.List.Nodup

/-!
# Writing to a sorted map, again and again

What a map holds after many writes, and what a write leaves as it was. A key holds what was
written to it last, whatever was written to other keys before, between and after. A write of what
is there already changes nothing, not even the spelling of the key.

## Main results

* `SortedMap.get?_foldl_insert` — the last write to a key wins.
* `SortedMap.insert_eq_self` — writing what is there changes nothing.
* `SortedMap.insert_comm`, `SortedMap.foldl_insert_perm` — writes to different keys can be put into
  any order.
* `SortedMap.filter_toList_insert`, `SortedMap.filter_keys_insert` — a selection by keys that leaves
  out the one that is written does not see the write.
* `SortedMap.mem_keys_iff` — the keys are those that have a value.
-/

namespace DtoInterfaces

/-! ### Entries -/

section Entries

variable {κ α : Type} [Ord κ] {key : κ} {value : α} {entries : List (κ × α)}

/-- Something is found exactly if a key is there, in any spelling. -/
theorem isSome_findEntry_iff :
    (findEntry key entries).isSome = true ↔ ∃ e ∈ entries, compare key e.1 = .eq := by
  induction entries with
  | nil => simp [findEntry]
  | cons entry entries ih =>
    obtain ⟨key', value'⟩ := entry
    simp only [findEntry, List.mem_cons, exists_eq_or_imp]
    split
    · rename_i hsame
      simp [hsame]
    · rename_i hother
      simp [hother, ih]

/-- Writing what is found changes nothing. The entries are sorted, so only smaller keys stand
before the place of the key. -/
theorem insertEntry_eq_self [Std.TransOrd κ]
    (hsorted : entries.Pairwise fun e f => compare e.1 f.1 = .lt)
    (h : findEntry key entries = some value) : insertEntry key value entries = entries := by
  induction entries with
  | nil => cases h
  | cons entry entries ih =>
    obtain ⟨key', value'⟩ := entry
    rw [List.pairwise_cons] at hsorted
    rw [findEntry] at h
    rw [insertEntry]
    split at h
    · rename_i hsame
      cases h
      rw [hsame]
    · obtain ⟨e, he, hkey⟩ := isSome_findEntry_iff.1 (Option.isSome_of_eq_some h)
      have hgt : compare key key' = .gt := by
        rw [Std.TransCmp.congr_left hkey]
        exact Std.OrientedCmp.gt_iff_lt.2 (hsorted.1 e he)
      rw [hgt, ih hsorted.2 h]

/-- A selection by keys that leaves out the key does not see the write. -/
theorem filter_insertEntry {p : κ → Bool} (h : ∀ key', compare key key' = .eq → p key' = false)
    (hkey : p key = false) :
    (insertEntry key value entries).filter (fun e => p e.1) = entries.filter fun e => p e.1 := by
  induction entries with
  | nil => simp [insertEntry, hkey]
  | cons entry entries ih =>
    obtain ⟨key', value'⟩ := entry
    rw [insertEntry]
    split
    · simp [hkey]
    · rename_i hsame
      simp [h key' hsame]
    · simp [List.filter_cons, ih]

/-- Writes to two keys can change places. By induction on the entries: where the smaller key belongs
behind the first entry the greater one does too, and otherwise the smaller one is in its place. -/
theorem insertEntry_comm_of_lt [Std.TransOrd κ] {key' : κ} {value' : α}
    (h : compare key key' = .lt) (entries : List (κ × α)) :
    insertEntry key value (insertEntry key' value' entries) =
      insertEntry key' value' (insertEntry key value entries) := by
  have hgt : compare key' key = .gt := Std.OrientedCmp.gt_iff_lt.2 h
  induction entries with
  | nil => simp only [insertEntry, h, hgt]
  | cons entry entries ih =>
    obtain ⟨other, value''⟩ := entry
    cases hkey : compare key other with
    | lt => cases hkey' : compare key' other <;> simp only [insertEntry, h, hgt, hkey, hkey']
    | eq =>
      have hkey' : compare key' other = .gt := by
        rw [← Std.TransCmp.congr_right hkey, hgt]
      simp only [insertEntry, hkey, hkey']
    | gt =>
      have hkey' : compare key' other = .gt :=
        Std.TransCmp.gt_trans hgt hkey
      simp only [insertEntry, hkey, hkey', ih]

end Entries

/-! ### Maps -/

namespace SortedMap

variable {κ α : Type} [Ord κ] {m : SortedMap κ α} {key other : κ} {value : α}

/-- The keys are those that have a value. -/
theorem mem_keys_iff [Std.LawfulEqOrd κ] : key ∈ m.keys ↔ (m.get? key).isSome = true := by
  rw [get?, isSome_findEntry_iff, keys, List.mem_map]
  exact ⟨fun ⟨e, he, hkey⟩ => ⟨e, he, Std.LawfulEqOrd.compare_eq_iff_eq.2 hkey.symm⟩,
    fun ⟨e, he, hkey⟩ => ⟨e, he, (Std.LawfulEqOrd.compare_eq_iff_eq.1 hkey).symm⟩⟩

variable [Std.TransOrd κ]

theorem contains_insert_iff :
    (m.insert key value).contains other = true ↔
      compare other key = .eq ∨ m.contains other = true := by
  rw [contains, get?_insert]
  split
  · rename_i hsame
    simp [hsame]
  · rename_i hother
    simp [hother, contains]

/-- **Writing what is there changes nothing.** -/
theorem insert_eq_self (h : m.get? key = some value) : m.insert key value = m :=
  ext (insertEntry_eq_self m.sorted h)

/-- **A selection of entries** by keys that leaves out the one that is written does not see the
write. -/
theorem filter_toList_insert {p : κ → Bool} (h : ∀ key', compare key key' = .eq → p key' = false) :
    ((m.insert key value).toList.filter fun e => p e.1) = m.toList.filter fun e => p e.1 :=
  filter_insertEntry h (h key Std.ReflCmp.compare_self)

/-- **A selection of keys** that leaves out the one that is written does not see the write. -/
theorem filter_keys_insert {p : κ → Bool} (h : ∀ key', compare key key' = .eq → p key' = false) :
    (m.insert key value).keys.filter p = m.keys.filter p := by
  have hentries : ((m.insert key value).toList.filter fun e => p e.1) =
      m.toList.filter fun e => p e.1 := filter_toList_insert h
  simp only [keys, List.filter_map]
  exact congrArg (List.map Prod.fst) hentries

theorem filter_keys_foldl_insert {p : κ → Bool} {keys : List κ}
    (h : ∀ key ∈ keys, ∀ key', compare key key' = .eq → p key' = false) :
    (keys.foldl (fun m key => m.insert key value) m).keys.filter p = m.keys.filter p := by
  induction keys generalizing m with
  | nil => rfl
  | cons key keys ih =>
    rw [List.forall_mem_cons] at h
    rw [List.foldl_cons, ih h.2, filter_keys_insert h.1]

theorem contains_foldl_insert_iff (keys : List κ) (m : SortedMap κ α) :
    (keys.foldl (fun m key => m.insert key value) m).contains other = true ↔
      m.contains other = true ∨ ∃ key ∈ keys, compare other key = .eq := by
  induction keys generalizing m with
  | nil => simp
  | cons key keys ih =>
    rw [List.foldl_cons, ih, contains_insert_iff]
    simp only [List.mem_cons, exists_eq_or_imp, or_assoc, or_left_comm]

theorem foldl_insert_eq_self {keys : List κ} (h : ∀ key ∈ keys, m.get? key = some value) :
    keys.foldl (fun m key => m.insert key value) m = m := by
  induction keys with
  | nil => rfl
  | cons key keys ih =>
    rw [List.foldl_cons, insert_eq_self (h key List.mem_cons_self)]
    exact ih fun key hkey => h key (List.mem_cons_of_mem _ hkey)

/-- **The last write to a key wins.** By induction on the writes: the rest of them overrides the
first one at its key and leaves it alone elsewhere. -/
theorem get?_foldl_insert [Std.LawfulEqOrd κ] [DecidableEq κ] {ι : Type} (keyOf : ι → κ)
    (valueOf : ι → α) (writes : List ι) (m : SortedMap κ α) :
    (writes.foldl (fun m w => m.insert (keyOf w) (valueOf w)) m).get? key =
      ((writes.filter fun w => keyOf w = key).getLast?.map valueOf).or (m.get? key) := by
  induction writes generalizing m with
  | nil => rfl
  | cons w writes ih =>
    rw [List.foldl_cons, ih, get?_insert, List.filter_cons]
    simp only [Std.LawfulEqOrd.compare_eq_iff_eq, decide_eq_true_eq]
    by_cases hkey : keyOf w = key
    · rw [if_pos hkey.symm, if_pos hkey, List.getLast?_cons]
      cases (writes.filter fun w => keyOf w = key).getLast? <;> rfl
    · rw [if_neg (Ne.symm hkey), if_neg hkey]

/-- **Writes to two different keys** can change places. -/
theorem insert_comm {key' : κ} {value' : α} (h : compare key key' ≠ .eq) (m : SortedMap κ α) :
    (m.insert key value).insert key' value' = (m.insert key' value').insert key value := by
  refine ext ?_
  cases hlt : compare key key' with
  | lt => exact (insertEntry_comm_of_lt hlt m.entries).symm
  | eq => exact absurd hlt h
  | gt => exact insertEntry_comm_of_lt (Std.OrientedCmp.gt_iff_lt.1 hlt) m.entries

/-- **Writes to different keys** can be put into any order. -/
theorem foldl_insert_perm [Std.LawfulEqOrd κ] {ι : Type} {keyOf : ι → κ} (valueOf : ι → α)
    {writes writes' : List ι} (hperm : writes.Perm writes') (hdistinct : (writes.map keyOf).Nodup)
    (m : SortedMap κ α) :
    writes.foldl (fun m w => m.insert (keyOf w) (valueOf w)) m =
      writes'.foldl (fun m w => m.insert (keyOf w) (valueOf w)) m := by
  refine hperm.foldl_eq' (fun w hw w' hw' m => ?_) m
  by_cases hsame : keyOf w = keyOf w'
  · rw [List.inj_on_of_nodup_map hdistinct hw hw' hsame]
  · exact insert_comm (fun heq => hsame (Std.LawfulEqOrd.compare_eq_iff_eq.1 heq)) m

end SortedMap

end DtoInterfaces
