import DtoInterfaces.Proofs.FileStore.Histories

/-!
# Denied paths stay as they are

Nothing is created or written within a denied path. A call looks at its own path only: it is refused
if something that is denied is around that path. But making a directory records everything around it
as well, and there the denied path may be in the middle, so one has to know that what is around a
path that is not within another one is not within that one either.

What is put in place is not stopped by a denial. So the part of a store that is frozen is the one it
has when the calls begin, and the denials are those that have been made up to then.

## Main definitions

* `MemoryFiles.within` — what is recorded at or below a path.

## Main results

* `MemoryFiles.isDenied_iff` — what is denied, by the paths around it.
* `MemoryFiles.within_apply`, `MemoryFiles.within_foldl_apply` — calls change nothing within a denied
  path.
* `MemoryFiles.calls_keep_denied` — what any calls leave as it was.
-/

namespace DtoInterfaces

namespace MemoryFiles

variable {s : MemoryFiles} {p q outer : Path} {text : String}

/-- The files and the directories that are recorded at or below a path, in their spellings. -/
def within (s : MemoryFiles) (outer : Path) : List (Path × String) × List Path :=
  (s.files.toList.filter fun e => e.1.IsWithin outer,
    s.directories.keys.filter fun p => p.IsWithin outer)

/-- **A path is denied** if it is within a path that is recorded as denied. -/
theorem isDenied_iff :
    s.isDenied p = true ↔ ∃ outer, s.denied.contains outer = true ∧ p.IsWithin outer := by
  rw [isDenied, List.any_eq_true]
  constructor
  · rintro ⟨around, haround, hdenied⟩
    exact ⟨around, hdenied, Path.isWithin_of_mem haround⟩
  · rintro ⟨outer, hdenied, around, haround, hsame⟩
    refine ⟨around, haround, ?_⟩
    rwa [SortedMap.contains, SortedMap.get?_congr _ (Path.compare_eq_iff.2 hsame)]

/-- A path that is not denied is not within a denied one, in whatever spelling. -/
theorem not_isWithin (hdenied : s.denied.contains outer = true) (hallowed : s.isDenied p = false)
    (hsame : compare p q = .eq) : ¬ q.IsWithin outer := by
  intro hwithin
  have hp : p.IsWithin outer := (Path.isWithin_congr (Path.compare_eq_iff.1 hsame)).2 hwithin
  rw [isDenied_iff.2 ⟨outer, hdenied, hp⟩] at hallowed
  cases hallowed

/-- A directory that is made outside of a path changes nothing within it: what is around the
directory is outside as well. -/
theorem within_addDirectory (hdenied : s.denied.contains outer = true)
    (hallowed : s.isDenied p = false) : (s.addDirectory p).within outer = s.within outer := by
  have houtside : ∀ around ∈ p.ancestors.filter fun around => !around.isEmpty,
      ∀ q, compare around q = .eq → decide (q.IsWithin outer) = false := by
    intro around haround q hsame
    have hp : p.IsWithin q :=
      ⟨around, (List.mem_filter.1 haround).1, Path.compare_eq_iff.1 hsame⟩
    exact decide_eq_false fun hwithin =>
      not_isWithin hdenied hallowed Std.ReflCmp.compare_self (hp.trans hwithin)
  exact Prod.ext rfl (SortedMap.filter_keys_foldl_insert houtside)

theorem within_insert (hdenied : s.denied.contains outer = true)
    (hallowed : s.isDenied p = false) :
    within { s with files := s.files.insert p text } outer = s.within outer := by
  have houtside : ∀ q, compare p q = .eq → decide (q.IsWithin outer) = false :=
    fun q hsame => decide_eq_false (not_isWithin hdenied hallowed hsame)
  exact Prod.ext (SortedMap.filter_toList_insert houtside) rfl

theorem denied_apply (s : MemoryFiles) (call : Call) : (call.apply s).denied = s.denied := by
  rw [Call.apply]
  rcases call.perform_cases s with ⟨e, hrun⟩ | ⟨p, -, -, hrun⟩ | ⟨p, text, -, -, -, hrun⟩
  · rw [hrun]
  · rw [hrun]
    rfl
  · rw [hrun]

/-- **A call changes nothing within a denied path.** -/
theorem within_apply (hdenied : s.denied.contains outer = true) (call : Call) :
    (call.apply s).within outer = s.within outer := by
  rw [Call.apply]
  rcases call.perform_cases s with ⟨e, hrun⟩ | ⟨p, -, hallowed, hrun⟩ |
    ⟨p, text, -, -, hallowed, hrun⟩
  · rw [hrun]
  · rw [hrun]
    exact within_addDirectory hdenied hallowed
  · rw [hrun]
    exact within_insert hdenied hallowed

/-- **Any calls, one after another,** change nothing within a denied path. -/
theorem within_foldl_apply (hdenied : s.denied.contains outer = true) (calls : List Call) :
    (calls.foldl Call.apply s).within outer = s.within outer := by
  induction calls generalizing s with
  | nil => rfl
  | cons call calls ih =>
    have hstill : (call.apply s).denied.contains outer = true := by
      rwa [denied_apply]
    rw [List.foldl_cons, ih hstill, within_apply hdenied]

/-- **What any calls leave as it was.** Things have been put in place and paths have been denied, and
then calls are made. What is recorded within a path that is denied is the same behind the calls as in
front of them. And each call, behind those in front of it, does what it says: one that fails changes
nothing, and a file that is written has its text while all the others stay as they are. -/
theorem calls_keep_denied (placements : List Placement) (calls : List Call) :
    let start := placements.foldl Placement.apply empty
    (∀ outer, start.denied.contains outer = true →
      (calls.foldl Call.apply start).within outer = start.within outer) ∧
    ∀ before call later, calls = before ++ call :: later →
      let reached := before.foldl Call.apply start
      (∀ e, (call.perform.run reached).1 = .error e → (call.perform.run reached).2 = reached) ∧
      ∀ p text, call = .writeText p text → (call.perform.run reached).1 = .ok () →
        (call.perform.run reached).2.readText p = .ok text ∧
        ∀ other, other.components ≠ p.components →
          (call.perform.run reached).2.contents? other = reached.contents? other := by
  intro start
  refine ⟨fun outer hdenied => within_foldl_apply hdenied calls, ?_⟩
  intro before call later _ reached
  rcases call.perform_cases reached with ⟨e, hrun⟩ | ⟨p, rfl, -, hrun⟩ | ⟨p, text, rfl, -, -, hrun⟩
  · rw [hrun]
    refine ⟨fun _ _ => rfl, ?_⟩
    intro p text _ hok
    cases hok
  · rw [hrun]
    refine ⟨?_, ?_⟩
    · intro e herror
      cases herror
    · intro p' text hcall
      cases hcall
  · rw [hrun]
    refine ⟨?_, ?_⟩
    · intro e herror
      cases herror
    · intro p' text' hcall _
      cases hcall
      refine ⟨?_, fun other hother => contents?_insert_of_ne hother⟩
      rw [readText, contents?_insert]

end MemoryFiles

end DtoInterfaces
