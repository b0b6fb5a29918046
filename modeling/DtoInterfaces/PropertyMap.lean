/-!
# Maps that keep the order of insertion

The properties of a class are written out in the order in which they were declared, so the maps
that describe them cannot be sorted. A property map is a list of entries with distinct names. A
new name goes to the end; writing to a name that is there changes its value and moves nothing.

## Main definitions

* `PropertyMap` — the maps.
* `PropertyMap.get?`, `PropertyMap.insert`, `PropertyMap.replace` — look up, write, and write
  while returning what was there.
* `PropertyMap.ofList` — the entries of a list, inserted in order.

## Main results

* `PropertyMap.get?_insert` — read after write.
* `PropertyMap.replace_eq` — replacing a value reads and writes.
* `PropertyMap.keys_insert` — what writing does to the order of the names.
* `PropertyMap.mem_keys_iff` — the names are the ones that have values.
-/

namespace DtoInterfaces

/-! ### Entries -/

/-- Write an entry: in place if the name is there, at the end otherwise. -/
def putEntry {α : Type} (name : String) (value : α) : List (String × α) → List (String × α)
  | [] => [(name, value)]
  | (name', value') :: entries =>
    if name' = name then (name', value) :: entries
    else (name', value') :: putEntry name value entries

/-- Write an entry and return the value that it replaces, in one pass. -/
def replaceEntry {α : Type} (name : String) (value : α) :
    List (String × α) → Option α × List (String × α)
  | [] => (none, [(name, value)])
  | (name', value') :: entries =>
    if name' = name then (some value', (name', value) :: entries)
    else
      let (old, entries) := replaceEntry name value entries
      (old, (name', value') :: entries)

/-- The one pass is a look-up and a write. -/
theorem replaceEntry_eq {α : Type} (name : String) (value : α) (entries : List (String × α)) :
    replaceEntry name value entries = (entries.lookup name, putEntry name value entries) := by
  induction entries with
  | nil => rfl
  | cons entry entries ih =>
    obtain ⟨name', value'⟩ := entry
    rw [replaceEntry, putEntry, List.lookup_cons]
    by_cases h : name' = name
    · rw [if_pos h, if_pos h, beq_iff_eq.2 h.symm]
    · rw [if_neg h, if_neg h, beq_false_of_ne (Ne.symm h), ih]

/-- Writing adds a name at the end, unless it is there. -/
theorem map_fst_putEntry {α : Type} (name : String) (value : α) (entries : List (String × α)) :
    (putEntry name value entries).map Prod.fst =
      if name ∈ entries.map Prod.fst then entries.map Prod.fst
      else entries.map Prod.fst ++ [name] := by
  induction entries with
  | nil => simp [putEntry]
  | cons entry entries ih =>
    obtain ⟨name', value'⟩ := entry
    rw [putEntry]
    by_cases h : name' = name
    · simp [h]
    · rw [if_neg h, List.map_cons, ih]
      by_cases hmem : name ∈ entries.map Prod.fst
      · rw [if_pos hmem, if_pos (by simp only [List.map_cons, List.mem_cons]; exact .inr hmem)]
        rfl
      · rw [if_neg hmem, if_neg]
        · rfl
        · simp only [List.map_cons, List.mem_cons, not_or]
          exact ⟨Ne.symm h, hmem⟩

/-- Reading a name after writing an entry. -/
theorem lookup_putEntry {α : Type} (name other : String) (value : α)
    (entries : List (String × α)) :
    (putEntry name value entries).lookup other =
      if other = name then some value else entries.lookup other := by
  induction entries with
  | nil =>
    rw [putEntry, List.lookup_cons]
    by_cases h : other = name
    · rw [if_pos h, beq_iff_eq.2 h]
    · rw [if_neg h, beq_false_of_ne h]
  | cons entry entries ih =>
    obtain ⟨name', value'⟩ := entry
    rw [putEntry]
    by_cases h : name' = name
    · subst h
      rw [if_pos rfl, List.lookup_cons, List.lookup_cons]
      by_cases ho : other = name'
      · rw [if_pos ho, beq_iff_eq.2 ho]
      · rw [if_neg ho, beq_false_of_ne ho]
    · rw [if_neg h, List.lookup_cons, List.lookup_cons, ih]
      by_cases ho : other = name'
      · have hn : other ≠ name := fun heq => h (ho ▸ heq)
        simp only [beq_iff_eq.2 ho, hn, if_false]
      · simp only [beq_false_of_ne ho]

/-! ### Maps -/

/-- A map from names to values that keeps the order in which the names were first written. -/
structure PropertyMap (α : Type) where
  entries : List (String × α)
  /-- No name has two entries. -/
  distinct : (entries.map Prod.fst).Nodup

namespace PropertyMap

variable {α : Type}

/-- The map without entries. -/
def empty : PropertyMap α := ⟨[], List.nodup_nil⟩

instance : Inhabited (PropertyMap α) := ⟨empty⟩

@[ext] theorem ext {m m' : PropertyMap α} (h : m.entries = m'.entries) : m = m' := by
  cases m
  cases m'
  simp_all

instance [DecidableEq α] : DecidableEq (PropertyMap α) := fun m m' =>
  decidable_of_iff (m.entries = m'.entries) ⟨ext, congrArg _⟩

/-- The entries in order. -/
def toList (m : PropertyMap α) : List (String × α) := m.entries

/-- The names in order. -/
def keys (m : PropertyMap α) : List String := m.entries.map Prod.fst

/-- The values with their names lost, in order. -/
def values (m : PropertyMap α) : List α := m.entries.map Prod.snd

/-- The number of names. -/
def size (m : PropertyMap α) : Nat := m.entries.length

/-- Whether there is no name. -/
def isEmpty (m : PropertyMap α) : Bool := m.entries.isEmpty

/-- The value of a name. -/
def get? (m : PropertyMap α) (name : String) : Option α := m.entries.lookup name

/-- Whether a name has a value. -/
def contains (m : PropertyMap α) (name : String) : Bool := (m.get? name).isSome

/-- Write a value. -/
def insert (m : PropertyMap α) (name : String) (value : α) : PropertyMap α where
  entries := putEntry name value m.entries
  distinct := by
    rw [map_fst_putEntry]
    split
    · exact m.distinct
    · rename_i h
      exact List.nodup_append.2 ⟨m.distinct, by simp, by
        intro a ha b hb
        rw [List.mem_singleton] at hb
        rintro rfl
        exact h (hb ▸ ha)⟩

/-- Write a value and return the one that was there. -/
def replace (m : PropertyMap α) (name : String) (value : α) : Option α × PropertyMap α :=
  ((replaceEntry name value m.entries).1,
    ⟨(replaceEntry name value m.entries).2, by
      rw [replaceEntry_eq]
      exact (m.insert name value).distinct⟩)

/-- The map of the entries of a list, written in order: a repeated name keeps its first place and
takes its last value. -/
def ofList (entries : List (String × α)) : PropertyMap α :=
  entries.foldl (fun m entry => m.insert entry.1 entry.2) empty

/-! ### One lemma per operation -/

/-- Read after write. -/
@[simp] theorem get?_insert (m : PropertyMap α) (name other : String) (value : α) :
    (m.insert name value).get? other = if other = name then some value else m.get? other :=
  lookup_putEntry name other value m.entries

/-- Replacing a value returns what was read before, and leaves what a write leaves. -/
theorem replace_eq (m : PropertyMap α) (name : String) (value : α) :
    m.replace name value = (m.get? name, m.insert name value) := by
  have hpass := replaceEntry_eq name value m.entries
  have hold : (m.replace name value).1 = m.get? name := congrArg Prod.fst hpass
  have hentries : (m.replace name value).2.entries = (m.insert name value).entries :=
    congrArg Prod.snd hpass
  exact Prod.ext hold (ext hentries)

/-- Writing adds a new name at the end and moves no name. -/
theorem keys_insert (m : PropertyMap α) (name : String) (value : α) :
    (m.insert name value).keys = if name ∈ m.keys then m.keys else m.keys ++ [name] :=
  map_fst_putEntry name value m.entries

/-- The names are the ones that have values. -/
theorem mem_keys_iff {m : PropertyMap α} {name : String} :
    name ∈ m.keys ↔ m.contains name = true := by
  simp only [keys, contains, get?]
  generalize m.entries = entries
  induction entries with
  | nil => simp
  | cons entry entries ih =>
    obtain ⟨name', value'⟩ := entry
    rw [List.lookup_cons]
    by_cases h : name = name'
    · simp [h]
    · have : (name == name') = false := by simpa using h
      rw [this, List.map_cons, List.mem_cons, ih]
      simp [h]

theorem nodup_keys (m : PropertyMap α) : m.keys.Nodup := m.distinct

theorem get?_eq_none_iff {m : PropertyMap α} {name : String} :
    m.get? name = none ↔ name ∉ m.keys := by
  rw [mem_keys_iff, contains, Bool.not_eq_true, Option.isSome_eq_false_iff,
    Option.isNone_iff_eq_none]

end PropertyMap

end DtoInterfaces
