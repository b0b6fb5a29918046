/-!
# Type expressions

The types that properties are given in the generated interfaces. A union lists its members; it
may be empty or hold unions itself, as long as it has not been simplified.

## Main definitions

* `TypeExpr` — the types.
* `TypeExpr.sameAs` — equality as a test, from which equality of types is decided.
-/

namespace DtoInterfaces

/-- A type with a single value. -/
inductive Literal where
  | text (value : String)
  | number (value : Int)
deriving DecidableEq

/-- A type of the generated interfaces. -/
inductive TypeExpr where
  /-- The type of everything, given where nothing is known. -/
  | any
  | string
  | number
  | boolean
  /-- Some object. -/
  | object
  | array (item : TypeExpr)
  /-- A generated interface, by name. -/
  | reference (name : String)
  | literal (value : Literal)
  | union (members : List TypeExpr)
deriving Inhabited

namespace TypeExpr

/-- An array of anything. -/
def anyArray : TypeExpr := .array .any

/-! ### Equality -/

mutual

/-- Whether two types are the same. -/
def sameAs : TypeExpr → TypeExpr → Bool
  | any, any | string, string | number, number | boolean, boolean | object, object => true
  | array t, array t' => t.sameAs t'
  | reference n, reference n' => n == n'
  | literal l, literal l' => l == l'
  | union ts, union ts' => allSame ts ts'
  | _, _ => false

/-- Whether two lists of types are the same. -/
def allSame : List TypeExpr → List TypeExpr → Bool
  | [], [] => true
  | t :: ts, t' :: ts' => t.sameAs t' && allSame ts ts'
  | _, _ => false

end

mutual

/-- Types that test as the same are equal. -/
theorem eq_of_sameAs : ∀ {t t' : TypeExpr}, t.sameAs t' = true → t = t'
  | any, t', h | string, t', h | number, t', h | boolean, t', h | object, t', h => by
    cases t' <;> simp_all [sameAs]
  | array t, t', h => by
    cases t' with
    | array t' => rw [show t = t' from eq_of_sameAs (by simpa [sameAs] using h)]
    | _ => simp [sameAs] at h
  | reference n, t', h => by cases t' <;> simp_all [sameAs]
  | literal l, t', h => by cases t' <;> simp_all [sameAs]
  | union ts, t', h => by
    cases t' with
    | union ts' => rw [show ts = ts' from eq_of_allSame (by simpa [sameAs] using h)]
    | _ => simp [sameAs] at h

theorem eq_of_allSame : ∀ {ts ts' : List TypeExpr}, allSame ts ts' = true → ts = ts'
  | [], ts', h => by cases ts' <;> simp_all [allSame]
  | t :: ts, ts', h => by
    cases ts' with
    | nil => simp [allSame] at h
    | cons t' ts' =>
      simp only [allSame, Bool.and_eq_true] at h
      rw [eq_of_sameAs h.1, eq_of_allSame h.2]

end

mutual

theorem sameAs_self : ∀ t : TypeExpr, t.sameAs t = true
  | any | string | number | boolean | object => by simp [sameAs]
  | array t => by simp [sameAs, sameAs_self t]
  | reference _ | literal _ => by simp [sameAs]
  | union ts => by simp [sameAs, allSame_self ts]

theorem allSame_self : ∀ ts : List TypeExpr, allSame ts ts = true
  | [] => by simp [allSame]
  | t :: ts => by simp [allSame, sameAs_self t, allSame_self ts]

end

instance : DecidableEq TypeExpr := fun t t' =>
  decidable_of_iff (t.sameAs t' = true) ⟨eq_of_sameAs, fun h => h ▸ sameAs_self t⟩

end TypeExpr

end DtoInterfaces
