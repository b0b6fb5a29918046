import DtoInterfaces.Proofs.TypeExpr.Simplify
import DtoInterfaces.Proofs.Typing.Resolution
import Mathlib.Data.List.Nodup

/-!
# The types of properties are simplified

A type that a property is given is one of the basic types, an array of anything, the name of an
interface, a literal, or a union of two or more distinct literals. Nothing is nested, and there is
nothing to simplify.

## Enums

Unions come from enums only. The cases of an enum are replaced by their literals, and a literal that
comes again is dropped: a case without a value is the text of its name, so it can be the same as a
case with that text behind it, while a number and the text of its digits stay two literals. An enum
that is not known or has no cases is text. It has to be left out before the literals are put
together, because the union of no types is `any`.

## Main definitions

* `TypeExpr.IsSettled` — the forms of the types that properties are given.
* `EnumCase.literals` — the literals of some cases, each of them once.

## Main results

* `TypeExpr.IsSettled.simplify_eq_self` — a settled type is left as it is.
* `typeOfCases_eq` — the type of some cases, by their literals.
* `Registry.isSettled_typeOfProperty` — the types of properties are settled, and what enums yield.
-/

namespace DtoInterfaces

/-! ### Settled types -/

namespace TypeExpr

/-- The forms of the types that properties are given. -/
inductive IsSettled : TypeExpr → Prop where
  | any : IsSettled .any
  | string : IsSettled .string
  | number : IsSettled .number
  | boolean : IsSettled .boolean
  | object : IsSettled .object
  | anyArray : IsSettled .anyArray
  | reference (name : String) : IsSettled (.reference name)
  | literal (l : Literal) : IsSettled (.literal l)
  | union {ls : List Literal} (hsome : 2 ≤ ls.length) (hdistinct : ls.Nodup) :
    IsSettled (.union (ls.map .literal))

theorem literal_injective : Function.Injective literal := fun _ _ h => literal.inj h

theorem flatMap_leaves_literals (ls : List Literal) :
    (ls.map literal).flatMap leaves = ls.map literal := by
  have hself : ∀ t ∈ ls.map literal, t.leaves = [t] := by
    intro t ht
    obtain ⟨l, -, rfl⟩ := List.mem_map.1 ht
    exact leaves_of_not_isUnion rfl
  rw [List.flatMap_congr hself]
  exact List.flatMap_singleton' _

theorem leaves_union_literals {ls : List Literal} (h : ls ≠ []) :
    (union (ls.map literal)).leaves = ls.map literal := by
  rw [leaves_union (by simpa using h), flatMap_leaves_literals]

/-- **A settled type** is left as it is by simplifying. -/
theorem IsSettled.simplify_eq_self {t : TypeExpr} (h : t.IsSettled) : t.simplify = t := by
  cases h with
  | @union ls hsome hdistinct =>
    have hne : ls ≠ [] := List.ne_nil_of_length_pos (by omega)
    rw [simplify_eq, leaves_union_literals hne,
      eraseDups_eq_self (hdistinct.map literal_injective),
      ofDistinct_of_two_le (by simpa using hsome)]
  | _ => rfl

end TypeExpr

/-! ### Enums -/

/-- The literals of some cases, each of them once, where it comes first. -/
def EnumCase.literals (cases : List EnumCase) : List Literal :=
  (cases.map EnumCase.literal).eraseDups

theorem EnumCase.literals_ne_nil {cases : List EnumCase} (h : cases ≠ []) :
    EnumCase.literals cases ≠ [] := by
  obtain ⟨c, hc⟩ := List.exists_mem_of_ne_nil _ h
  exact List.ne_nil_of_mem (List.mem_eraseDups.2 (List.mem_map_of_mem hc))

/-- **The type of some cases** is that of their literals. -/
theorem typeOfCases_eq {cases : List EnumCase} (h : cases ≠ []) :
    typeOfCases cases = .ofDistinct ((EnumCase.literals cases).map .literal) := by
  have hmap : cases.map (fun c => TypeExpr.literal c.literal) =
      (cases.map EnumCase.literal).map .literal := by
    rw [List.map_map]
    rfl
  have hcases : typeOfCases cases = .ofAlternatives (cases.map fun c => .literal c.literal) := by
    cases cases with
    | nil => exact absurd rfl h
    | cons c cs => rfl
  rw [hcases, TypeExpr.ofAlternatives, TypeExpr.simplify_eq, hmap,
    TypeExpr.leaves_union_literals (by simpa using h),
    eraseDups_map_of_injective TypeExpr.literal_injective]
  rfl

theorem typeOfCases_cases {cases : List EnumCase} (h : cases ≠ []) :
    (∃ l, EnumCase.literals cases = [l] ∧ typeOfCases cases = .literal l) ∨
    (2 ≤ (EnumCase.literals cases).length ∧
      typeOfCases cases = .union ((EnumCase.literals cases).map .literal)) := by
  rw [typeOfCases_eq h]
  match hls : EnumCase.literals cases with
  | [] => exact absurd hls (EnumCase.literals_ne_nil h)
  | [l] => exact .inl ⟨l, rfl, rfl⟩
  | l :: l' :: ls => exact .inr ⟨by simp, rfl⟩

theorem leaves_typeOfCases {cases : List EnumCase} (h : cases ≠ []) :
    (typeOfCases cases).leaves = (EnumCase.literals cases).map .literal := by
  rw [typeOfCases_eq h]
  refine TypeExpr.leaves_ofDistinct (by simpa using EnumCase.literals_ne_nil h) fun t ht => ?_
  obtain ⟨l, -, rfl⟩ := List.mem_map.1 ht
  rfl

-- a case is the text of its name or of its value; a number is not the text of its digits
example : typeOfCases [⟨"A", none⟩, ⟨"B", some (.text "A")⟩, ⟨"C", some (.integer 1)⟩,
    ⟨"D", some (.text "1")⟩, ⟨"E", some (.integer 1)⟩] =
    .union [.literal (.text "A"), .literal (.number 1), .literal (.text "1")] := by
  decide +kernel

/-! ### Every place that types come from -/

open TypeExpr

theorem CastKind.isSettled_type (kind : CastKind) : kind.type.IsSettled := by
  cases kind with
  | string | enum | carbon | carbonImmutable => exact .string
  | integer | long | float | double => exact .number
  | boolean => exact .boolean
  | array | collection => exact .anyArray
  | object | model => exact .object

theorem Rules.isSettled_type (rules : Rules) : rules.type.IsSettled := by
  rw [Rules.type]
  split
  · exact .number
  · split
    · exact .boolean
    · split
      · exact .anyArray
      · exact .string

theorem isSettled_typeOfCases (cases : List EnumCase) : (typeOfCases cases).IsSettled := by
  by_cases h : cases = []
  · rw [h]
    exact .string
  · obtain ⟨l, -, htype⟩ | ⟨hsome, htype⟩ := typeOfCases_cases h
    · rw [htype]
      exact .literal l
    · rw [htype]
      exact .union hsome (nodup_eraseDups _)

namespace Registry

theorem isSettled_typeOfEnum (r : Registry) (enumName : String) :
    (r.typeOfEnum enumName).IsSettled := by
  rw [typeOfEnum]
  split
  · exact isSettled_typeOfCases _
  · exact .string

theorem isSettled_typeOfCast (r : Registry) (cast : Cast) : (r.typeOfCast cast).IsSettled := by
  cases cast with
  | primitive kind => exact kind.isSettled_type
  | nested className => exact .reference _
  | enumeration enumName => exact r.isSettled_typeOfEnum enumName
  | custom name => exact .any

theorem GivesType.isSettled {r : Registry} {className property : String} {s : Shape} {t : TypeExpr}
    (h : r.GivesType className s property t) : t.IsSettled := by
  cases h with
  | cast h => exact r.isSettled_typeOfCast _
  | rules hcast h => exact Rules.isSettled_type _
  | declared hcast hrules h => exact CastKind.isSettled_type _
  | unknown hcast hrules h => exact .any

/-- An enum that is known and has cases has the type of its cases; any other enum is text. -/
theorem typeOfEnum_cases (r : Registry) (enumName : String) :
    (∃ cases, r.enumCases enumName = .ok cases ∧ cases ≠ [] ∧
      r.typeOfEnum enumName = typeOfCases cases) ∨
    ((r.enumCases enumName = .ok [] ∨ ∃ e, r.enumCases enumName = .error e) ∧
      r.typeOfEnum enumName = .string) := by
  rw [typeOfEnum]
  cases hlookup : r.enumCases enumName with
  | error e => exact .inr ⟨.inr ⟨e, rfl⟩, rfl⟩
  | ok cases =>
    cases cases with
    | nil => exact .inr ⟨.inl rfl, rfl⟩
    | cons c cs => exact .inl ⟨c :: cs, rfl, List.cons_ne_nil _ _, rfl⟩

/-- **The types of properties are settled**, whatever the registry, the class and the shape are, and
simplifying leaves them as they are. If the cast of the property names an enum that is known and has
cases, the type is made of their literals: the integer or the text behind a case, and its name if
there is no value. Each literal is there once and where it comes first; a single one stands alone,
and more make a union. If the enum is not known or has no cases, the type is text; it is never
`any`. -/
theorem isSettled_typeOfProperty (r : Registry) (className : String) (s : Shape)
    (property : String) :
    (r.typeOfProperty className s property).IsSettled ∧
    (r.typeOfProperty className s property).simplify = r.typeOfProperty className s property ∧
    ∀ enumName, s.casts.get? property = some (.enumeration enumName) →
      (∀ cases, r.enumCases enumName = .ok cases → cases ≠ [] →
        let literals := (cases.map fun c =>
          match c.value with
          | some (.integer value) => Literal.number value
          | some (.text value) => .text value
          | none => .text c.name).eraseDups
        (r.typeOfProperty className s property).leaves = literals.map .literal ∧
        ((∃ l, literals = [l] ∧ r.typeOfProperty className s property = .literal l) ∨
          (2 ≤ literals.length ∧
            r.typeOfProperty className s property = .union (literals.map .literal)))) ∧
      ((r.enumCases enumName = .ok [] ∨ ∃ e, r.enumCases enumName = .error e) →
        r.typeOfProperty className s property = .string) ∧
      r.typeOfProperty className s property ≠ .any := by
  have hsettled := (givesType_typeOfProperty r className s property).isSettled
  refine ⟨hsettled, hsettled.simplify_eq_self, fun enumName hcast => ?_⟩
  have htype : r.typeOfProperty className s property = r.typeOfEnum enumName :=
    typeOfProperty_of_cast hcast
  rw [htype]
  refine ⟨fun cases hcases hne => ?_, fun hfail => ?_, ?_⟩
  · intro literals
    have hliterals : EnumCase.literals cases = literals := rfl
    have henum : r.typeOfEnum enumName = typeOfCases cases := by rw [typeOfEnum, hcases]
    rw [henum, ← hliterals]
    exact ⟨leaves_typeOfCases hne, typeOfCases_cases hne⟩
  · obtain hcases | ⟨e, herror⟩ := hfail
    · rw [typeOfEnum, hcases]
      rfl
    · rw [typeOfEnum, herror]
  · obtain ⟨cases, -, hne, henum⟩ | ⟨-, henum⟩ := r.typeOfEnum_cases enumName
    · rw [henum]
      obtain ⟨l, -, h⟩ | ⟨-, h⟩ := typeOfCases_cases hne
      · rw [h]
        exact nofun
      · rw [h]
        exact nofun
    · rw [henum]
      exact nofun

end Registry

end DtoInterfaces
