import DtoInterfaces.Proofs.FirstOccurrences
import DtoInterfaces.Proofs.Json.WrittenValues
import Mathlib.Data.Finset.Card
import Mathlib.Data.List.Induction

/-!
# What property maps are filled with

A property map is filled with entries in several ways: one entry after another, with what was there
before handed back or not; all the entries of a list at once; or the members of an object, read in
the order of the text. Whichever way is taken, and if the ways are mixed, the map depends on nothing
but the entries in their order. The names stand in the order in which they came first, and each has
the value that came last.

Order and value are looked after by opposite ends of the list of entries, so neither half of the
statement says anything about the other one. What carries both through an insertion is that a name
that is there already moves nothing, and one that is not goes behind all the others.

## Main definitions

* `PropertyMap.Summarises` — what a map shows of the entries it has been filled with.
* `PropertyMap.IsFilledWith` — a map has been filled with entries, in any of the ways.

## Main results

* `PropertyMap.Summarises.insert` — one more entry.
* `PropertyMap.IsFilledWith.eq_ofList` — all ways of filling a map agree.
* `PropertyMap.ofList_toList` — the entries of a map rebuild it.
* `PropertyMap.summarises_of_isFilledWith` — what a map shows, however it has been filled.
-/

namespace DtoInterfaces

namespace PropertyMap

variable {α : Type} {m : PropertyMap α} {entries : List (String × α)} {name other : String} {value : α}

/-! ### Names and values -/

/-- **What a map shows of some entries:** the names in the order in which they come first, each with
the value that comes last. -/
structure Summarises (m : PropertyMap α) (entries : List (String × α)) : Prop where
  nodup_keys : m.keys.Nodup
  keys_eq : m.keys = (entries.map Prod.fst).eraseDups
  get?_eq : ∀ name, m.get? name = (entries.filter fun e => e.1 = name).getLast?.map Prod.snd
  size_eq : m.size = (entries.map Prod.fst).toFinset.card

theorem length_eraseDups {ι : Type} [DecidableEq ι] (l : List ι) :
    l.eraseDups.length = l.toFinset.card := by
  have hsame : l.eraseDups.toFinset = l.toFinset := by
    ext a
    rw [List.mem_toFinset, List.mem_toFinset, List.mem_eraseDups]
  rw [← hsame, List.toFinset_card_of_nodup (nodup_eraseDups l)]

/-- The number of names is the number of different ones among those that have been written, if the
names are. -/
theorem size_of_keys (h : m.keys = (entries.map Prod.fst).eraseDups) :
    m.size = (entries.map Prod.fst).toFinset.card := by
  rw [← length_eraseDups, ← h, keys, List.length_map, size]

theorem summarises_empty : (empty : PropertyMap α).Summarises [] where
  nodup_keys := List.nodup_nil
  keys_eq := rfl
  get?_eq _ := rfl
  size_eq := rfl

/-- **One more entry.** A name that is there keeps its place, a new one goes to the end, and either
has the new value. -/
theorem Summarises.insert (h : m.Summarises entries) (name : String) (value : α) :
    (m.insert name value).Summarises (entries ++ [(name, value)]) := by
  have hkeys : (m.insert name value).keys =
      ((entries ++ [(name, value)]).map Prod.fst).eraseDups := by
    rw [keys_insert, h.keys_eq, List.map_append, List.eraseDups_append]
    by_cases hthere : name ∈ entries.map Prod.fst
    · simp [hthere, List.removeAll]
    · simp [hthere, List.removeAll, List.eraseDups_cons]
  refine ⟨(m.insert name value).distinct, hkeys, fun other => ?_, size_of_keys hkeys⟩
  rw [get?_insert, h.get?_eq, List.filter_append]
  by_cases hsame : other = name
  · simp [hsame]
  · simp [hsame, Ne.symm hsame]

theorem ofList_concat (entries : List (String × α)) (name : String) (value : α) :
    ofList (entries ++ [(name, value)]) = (ofList entries).insert name value := by
  rw [ofList, List.foldl_append]
  rfl

theorem summarises_ofList (entries : List (String × α)) : (ofList entries).Summarises entries := by
  induction entries using List.reverseRecOn with
  | nil => exact summarises_empty
  | append_singleton entries entry ih =>
    rw [ofList_concat]
    exact ih.insert entry.1 entry.2

/-- **Writing a name leaves the others alone:** each of them has its value and stands where it
stood. -/
theorem insert_of_ne (h : other ≠ name) (m : PropertyMap α) (value : α) :
    (m.insert name value).get? other = m.get? other ∧
      ∀ i : Nat, (m.insert name value).keys[i]? = some other ↔ m.keys[i]? = some other := by
  refine ⟨by rw [get?_insert, if_neg h], fun i => ?_⟩
  rw [keys_insert]
  split
  · rfl
  · rw [List.getElem?_append]
    split
    · rfl
    · rename_i hbehind
      rw [List.getElem?_eq_none (Nat.le_of_not_lt hbehind)]
      simp [List.getElem?_singleton, Ne.symm h]

/-! ### The entries of a map -/

theorem putEntry_of_not_mem (h : name ∉ entries.map Prod.fst) :
    putEntry name value entries = entries ++ [(name, value)] := by
  induction entries with
  | nil => rfl
  | cons entry entries ih =>
    rw [List.map_cons, List.mem_cons, not_or] at h
    rw [putEntry, if_neg (Ne.symm h.1), ih h.2, List.cons_append]

/-- Entries with different names are collected as they are. -/
theorem toList_ofList (h : (entries.map Prod.fst).Nodup) : (ofList entries).toList = entries := by
  induction entries using List.reverseRecOn with
  | nil => rfl
  | append_singleton entries entry ih =>
    rw [List.map_append, List.map_singleton, List.nodup_append] at h
    obtain ⟨hentries, -, hdisjoint⟩ := h
    have hnew : entry.1 ∉ entries.map Prod.fst := fun hmem =>
      hdisjoint _ hmem _ List.mem_cons_self rfl
    rw [ofList_concat]
    show putEntry entry.1 entry.2 (ofList entries).toList = entries ++ [entry]
    rw [ih hentries, putEntry_of_not_mem hnew]

/-- **The entries of a map rebuild it.** -/
theorem ofList_toList (m : PropertyMap α) : ofList m.toList = m :=
  ext (toList_ofList m.distinct)

/-! ### Ways of filling a map -/

/-- A member of an object, read as an entry. -/
def IsReadAs (read : Json.Doc → Except Json.Fault α) (member : Json.Key × Json.Doc)
    (entry : String × α) : Prop :=
  member.1 = .name entry.1 ∧ read member.2 = .ok entry.2

/-- A map has been filled with some entries, in their order. -/
inductive IsFilledWith : List (String × α) → PropertyMap α → Prop
  | empty : IsFilledWith [] .empty
  /-- All entries of a list. -/
  | collected (entries : List (String × α)) : IsFilledWith entries (ofList entries)
  /-- The members of an object, wherever the object stands. -/
  | read {read : Json.Reader α} {depth : Nat} {members : List (Json.Key × Json.Doc)}
      {entries : List (String × α)} {m : PropertyMap α}
      (hmembers : List.Forall₂ (IsReadAs (read (depth + 1))) members entries)
      (hread : Json.Reader.propertyMap read depth (.object members) = .ok m) :
      IsFilledWith entries m
  /-- One more entry. -/
  | inserted {entries : List (String × α)} {m : PropertyMap α} (h : IsFilledWith entries m)
      (name : String) (value : α) : IsFilledWith (entries ++ [(name, value)]) (m.insert name value)
  /-- One more entry, in exchange for the value that was there. -/
  | replaced {entries : List (String × α)} {m : PropertyMap α} (h : IsFilledWith entries m)
      (name : String) (value : α) :
      IsFilledWith (entries ++ [(name, value)]) (m.replace name value).2

/-- The members of an object are put into a map as the entries that they are read as. -/
theorem intoMap_of_forall₂ {read : Json.Doc → Except Json.Fault α}
    {members : List (Json.Key × Json.Doc)} (h : List.Forall₂ (IsReadAs read) members entries)
    (m : PropertyMap α) :
    Json.Reader.intoMap read m members = .ok (entries.foldl (fun m e => m.insert e.1 e.2) m) := by
  induction h generalizing m with
  | nil => rfl
  | @cons member entry members entries hmember _ ih =>
    obtain ⟨key, d⟩ := member
    obtain ⟨rfl, hread⟩ := hmember
    rw [Json.Reader.intoMap, hread]
    exact ih _

/-- **An object is read as the map of its members,** as long as the reader can follow it. -/
theorem propertyMap_of_forall₂ {read : Json.Reader α} {depth : Nat}
    {members : List (Json.Key × Json.Doc)} (hdepth : depth < Json.depthLimit)
    (h : List.Forall₂ (IsReadAs (read (depth + 1))) members entries) :
    Json.Reader.propertyMap read depth (.object members) = .ok (ofList entries) := by
  rw [Json.Reader.propertyMap, Json.Reader.inside, if_pos hdepth, intoMap_of_forall₂ h, ofList]

/-- **All ways of filling a map agree.** -/
theorem IsFilledWith.eq_ofList (h : IsFilledWith entries m) : m = ofList entries := by
  induction h with
  | empty => rfl
  | collected entries => rfl
  | @read read depth members entries m hmembers hread =>
    by_cases hdepth : depth < Json.depthLimit
    · rw [propertyMap_of_forall₂ hdepth hmembers] at hread
      exact (Except.ok.inj hread).symm
    · rw [Json.Reader.propertyMap, Json.Reader.inside, if_neg hdepth] at hread
      cases hread
  | inserted _ name value ih => rw [ih, ofList_concat]
  | replaced _ name value ih => rw [replace_eq, ih, ofList_concat]

/-- **What a map shows, however it has been filled.** Its names are different, and are those of the
entries in the order in which they came first; each name has the value that came with it last; and
the size is the number of different names. One more entry hands back what its name has had, and
leaves the other names with their values in their places. The entries of the map rebuild it, and a
text of an object with the same members is read as the same map. -/
theorem summarises_of_isFilledWith (h : IsFilledWith entries m) :
    m.Summarises entries ∧
    (∀ name value, (m.replace name value).1 = m.get? name ∧ ∀ other, other ≠ name →
      (m.replace name value).2.get? other = m.get? other ∧
      ∀ i : Nat, (m.replace name value).2.keys[i]? = some other ↔ m.keys[i]? = some other) ∧
    ofList m.toList = m ∧
    ∀ (read : Json.Reader α) (text : String) (members : List (Json.Key × Json.Doc)),
      Json.Document.ofText text = ⟨.object members, true⟩ →
      List.Forall₂ (IsReadAs (read 1)) members entries →
      (Json.Reader.propertyMap read).run text = .ok m := by
  obtain rfl := h.eq_ofList
  refine ⟨summarises_ofList entries, ?_, ofList_toList _, ?_⟩
  · intro name value
    rw [replace_eq]
    exact ⟨rfl, fun other hother => insert_of_ne hother (ofList entries) value⟩
  · intro read text members htext hmembers
    have hread : Json.Reader.propertyMap read 0 (.object members) = .ok (ofList entries) :=
      propertyMap_of_forall₂ (by decide) hmembers
    rw [Json.Reader.run, htext]
    simp only [hread]
    rfl

/-- A name that an object has twice, and then another one that is replaced: neither of them moves. -/
theorem summarises_of_isFilledWith_repeatedNames :
    let object : Json.Value :=
      .object [("b", .string "x"), ("a", .string "y"), ("b", .string "z")]
    let seen : PropertyMap String := ofList [("b", "x"), ("a", "y"), ("b", "z")]
    (seen.replace "a" "w").2.toList = [("b", "z"), ("a", "w")] ∧
    IsFilledWith [("b", "x"), ("a", "y"), ("b", "z"), ("a", "w")] (seen.replace "a" "w").2 ∧
    (seen.replace "a" "w").2.Summarises [("b", "x"), ("a", "y"), ("b", "z"), ("a", "w")] ∧
    (Json.Reader.propertyMap Json.Reader.text).run (String.ofList object.compact) = .ok seen := by
  intro object seen
  have htext : Json.Document.ofText (String.ofList object.compact) =
      ⟨Json.Doc.ofValue object, true⟩ :=
    Json.ofText_of_tokens (Json.tokens_compact rfl)
  have hmembers : List.Forall₂ (IsReadAs (Json.Reader.text 1))
      [(.name "b", .string "x"), (.name "a", .string "y"), (.name "b", .string "z")]
      [("b", "x"), ("a", "y"), ("b", "z")] :=
    .cons ⟨rfl, rfl⟩ (.cons ⟨rfl, rfl⟩ (.cons ⟨rfl, rfl⟩ .nil))
  have hseen : IsFilledWith [("b", "x"), ("a", "y"), ("b", "z")] seen :=
    .read hmembers (propertyMap_of_forall₂ (by decide) hmembers)
  have hfilled := hseen.replaced "a" "w"
  refine ⟨by decide, hfilled, (summarises_of_isFilledWith hfilled).1, ?_⟩
  exact (summarises_of_isFilledWith hseen).2.2.2 Json.Reader.text _ _ htext hmembers

end PropertyMap

end DtoInterfaces
