import DtoInterfaces.Proofs.FirstOccurrences
import DtoInterfaces.Proofs.Rules
import DtoInterfaces.Typing

/-!
# How properties are resolved

The interface of a class has one entry for every name that its shape knows. What the entry says is
taken from four places: the cast of the property, its rules, its default value, and the declaration
in the class. They are asked in two different orders. For the type it is the cast, then the rules,
then the declaration, and the first one that is there decides even if it knows nothing; for the
question mark it is the default value, then the rules.

## Main definitions

* `Registry.Declares` — the kind that the declaration of a property is annotated with.
* `Registry.GivesType` — the type of a property, one rule for each place that it can come from.
* `Shape.AgreesOff` — two shapes differ in one property at most.

## Main results

* `Shape.propertyNames_eq` — the names in their order.
* `Shape.agreesOff_insert` — writing entries of one property changes nothing about the others.
* `Registry.givesType_iff` — the type of a property is the one that its places give.
* `Registry.interface_resolves` — interfaces, property by property.
-/

namespace DtoInterfaces

/-! ### Names -/

namespace Shape

variable {s s' : Shape} {name : String}

/-- **The names in their order**: those of the casts, then the further ones of the rules, then the
further ones of the default values. -/
theorem propertyNames_eq (s : Shape) :
    s.propertyNames = s.casts.keys ++ s.rules.keys.filter (· ∉ s.casts.keys) ++
      s.defaults.keys.filter fun name => name ∉ s.casts.keys ∧ name ∉ s.rules.keys := by
  have hfurther : ∀ names seen : List String, names.Nodup →
      (names.removeAll seen).eraseDups = names.filter (· ∉ seen) := by
    intro names seen hnames
    have hremove : names.removeAll seen = names.filter (· ∉ seen) :=
      List.filter_congr fun name _ => by simp
    rw [hremove, eraseDups_eq_self (hnames.filter _)]
  rw [propertyNames, List.eraseDups_append, List.eraseDups_append,
    eraseDups_eq_self s.casts.nodup_keys, hfurther _ _ s.rules.nodup_keys,
    hfurther _ _ s.defaults.nodup_keys]
  simp only [List.mem_append, not_or]

theorem mem_propertyNames_iff : name ∈ s.propertyNames ↔
    s.casts.contains name = true ∨ s.rules.contains name = true ∨
      s.defaults.contains name = true := by
  rw [propertyNames, List.mem_eraseDups, List.mem_append, List.mem_append, PropertyMap.mem_keys_iff,
    PropertyMap.mem_keys_iff, PropertyMap.mem_keys_iff, or_assoc]

/-- **A property is optional** if there is a default value, or no rules, or none of its rules has
the word `required`. -/
theorem isOptional_iff : s.isOptional name = true ↔
    name ∈ s.defaults.keys ∨ name ∉ s.rules.keys ∨ ∃ rules, s.rules.get? name = some rules ∧
      ∀ token ∈ rules.tokens, ¬ "required".toList <:+: token.toList := by
  have hbar : Rules.bar ∉ "required".toList := by decide +kernel
  have hne : "required".toList ≠ [] := by decide +kernel
  rw [isOptional, Bool.or_eq_true, PropertyMap.mem_keys_iff, ← PropertyMap.get?_eq_none_iff]
  cases hrules : s.rules.get? name with
  | none => simp
  | some rules => simp [← Bool.not_eq_true, Rules.mentions_iff hbar hne]

/-- Two shapes differ in what they say about one property at most. Of default values it counts
whether they are there. -/
structure AgreesOff (s : Shape) (changed : String) (s' : Shape) : Prop where
  casts : ∀ name, name ≠ changed → s'.casts.get? name = s.casts.get? name
  rules : ∀ name, name ≠ changed → s'.rules.get? name = s.rules.get? name
  defaults : ∀ name, name ≠ changed → s'.defaults.contains name = s.defaults.contains name

/-- Writing entries of a property changes nothing else. -/
theorem agreesOff_insert (s : Shape) (changed : String) (cast : Cast) (rules : Rules)
    (value : Json.Value) :
    s.AgreesOff changed ⟨s.casts.insert changed cast, s.rules.insert changed rules,
      s.defaults.insert changed value⟩ where
  casts name hne := by rw [PropertyMap.get?_insert, if_neg hne]
  rules name hne := by rw [PropertyMap.get?_insert, if_neg hne]
  defaults name hne := by rw [PropertyMap.contains, PropertyMap.get?_insert, if_neg hne]; rfl

end Shape

/-! ### Types -/

namespace Registry

variable {r : Registry} {className property : String} {s s' : Shape} {t : TypeExpr}
  {kind : CastKind}

/-- The first declaration of the property in the class is annotated with the name of a kind. -/
def Declares (r : Registry) (className property : String) (kind : CastKind) : Prop :=
  ∃ info before decl after castName, r.classInfo? className = some info ∧
    info.properties = before ++ decl :: after ∧ decl.name = property ∧
    (∀ d ∈ before, d.name ≠ property) ∧ decl.cast = some castName ∧
    CastKind.ofName? castName = some kind

/-- The type of a property, by the first place that is there. -/
inductive GivesType (r : Registry) (className : String) (s : Shape) (property : String) :
    TypeExpr → Prop where
  | cast {cast : Cast} (h : s.casts.get? property = some cast) :
    GivesType r className s property (r.typeOfCast cast)
  | rules {rules : Rules} (hcast : property ∉ s.casts.keys)
    (h : s.rules.get? property = some rules) : GivesType r className s property rules.type
  | declared {kind : CastKind} (hcast : property ∉ s.casts.keys) (hrules : property ∉ s.rules.keys)
    (h : r.Declares className property kind) : GivesType r className s property kind.type
  | unknown (hcast : property ∉ s.casts.keys) (hrules : property ∉ s.rules.keys)
    (h : ∀ kind, ¬ r.Declares className property kind) : GivesType r className s property .any

/-- The declaration that counts is the one that is found. -/
theorem declares_iff : r.Declares className property kind ↔
    ((r.declaredProperty? className property).bind (·.cast)).bind CastKind.ofName? = some kind := by
  simp only [declaredProperty?, Option.bind_eq_some_iff]
  constructor
  · rintro ⟨info, before, decl, after, castName, hinfo, hsplit, hname, hfirst, hcast, hkind⟩
    refine ⟨castName, ⟨decl, ⟨info, hinfo, ?_⟩, hcast⟩, hkind⟩
    rw [List.find?_eq_some_iff_append]
    exact ⟨by simpa using hname, before, after, hsplit, fun d hd => by simpa using hfirst d hd⟩
  · rintro ⟨castName, ⟨decl, ⟨info, hinfo, hfind⟩, hcast⟩, hkind⟩
    obtain ⟨hname, before, after, hsplit, hfirst⟩ := List.find?_eq_some_iff_append.1 hfind
    exact ⟨info, before, decl, after, castName, hinfo, hsplit, by simpa using hname,
      fun d hd => by simpa using hfirst d hd, hcast, hkind⟩

/-- The type of a declaration is that of its kind, and nothing is known without one. -/
theorem typeOfDeclaration_cases (r : Registry) (className property : String) :
    (∃ kind, r.Declares className property kind ∧
      r.typeOfDeclaration className property = kind.type) ∨
    ((∀ kind, ¬ r.Declares className property kind) ∧
      r.typeOfDeclaration className property = .any) := by
  rw [typeOfDeclaration]
  cases hkind : ((r.declaredProperty? className property).bind (·.cast)).bind CastKind.ofName? with
  | some kind => exact .inl ⟨kind, declares_iff.2 hkind, rfl⟩
  | none =>
    refine .inr ⟨fun kind h => ?_, rfl⟩
    rw [declares_iff, hkind] at h
    cases h

theorem typeOfProperty_of_cast {cast : Cast} (h : s.casts.get? property = some cast) :
    r.typeOfProperty className s property = r.typeOfCast cast := by
  simp only [typeOfProperty, h]

theorem typeOfProperty_of_rules {rules : Rules} (hcast : property ∉ s.casts.keys)
    (h : s.rules.get? property = some rules) :
    r.typeOfProperty className s property = rules.type := by
  simp only [typeOfProperty, PropertyMap.get?_eq_none_iff.2 hcast, h]

theorem typeOfProperty_of_not_mem (hcast : property ∉ s.casts.keys)
    (hrules : property ∉ s.rules.keys) :
    r.typeOfProperty className s property = r.typeOfDeclaration className property := by
  simp only [typeOfProperty, PropertyMap.get?_eq_none_iff.2 hcast,
    PropertyMap.get?_eq_none_iff.2 hrules]

/-- There is always a place that gives a type. -/
theorem givesType_typeOfProperty (r : Registry) (className : String) (s : Shape)
    (property : String) :
    r.GivesType className s property (r.typeOfProperty className s property) := by
  by_cases hcast : property ∈ s.casts.keys
  · obtain ⟨cast, h⟩ := Option.isSome_iff_exists.1 (PropertyMap.mem_keys_iff.1 hcast)
    rw [typeOfProperty_of_cast h]
    exact .cast h
  · by_cases hrules : property ∈ s.rules.keys
    · obtain ⟨rules, h⟩ := Option.isSome_iff_exists.1 (PropertyMap.mem_keys_iff.1 hrules)
      rw [typeOfProperty_of_rules hcast h]
      exact .rules hcast h
    · rw [typeOfProperty_of_not_mem hcast hrules]
      obtain ⟨kind, hkind, htype⟩ | ⟨hnone, htype⟩ :=
        typeOfDeclaration_cases r className property
      · rw [htype]
        exact .declared hcast hrules hkind
      · rw [htype]
        exact .unknown hcast hrules hnone

/-- **The type of a property** is the one that its places give, and they give no other. -/
theorem givesType_iff :
    r.GivesType className s property t ↔ t = r.typeOfProperty className s property := by
  constructor
  · intro h
    cases h with
    | cast h => exact (typeOfProperty_of_cast h).symm
    | rules hcast h => exact (typeOfProperty_of_rules hcast h).symm
    | declared hcast hrules h =>
      rw [typeOfProperty_of_not_mem hcast hrules, typeOfDeclaration, declares_iff.1 h,
        Option.elim_some]
    | unknown hcast hrules h =>
      obtain ⟨kind, hkind, -⟩ | ⟨-, htype⟩ := typeOfDeclaration_cases r className property
      · exact absurd hkind (h kind)
      · rw [typeOfProperty_of_not_mem hcast hrules, htype]
  · rintro rfl
    exact givesType_typeOfProperty r className s property

/-! ### Interfaces -/

theorem mem_properties_iff {entry : String × PropertyType} :
    entry ∈ (r.interface className s).properties ↔ entry.1 ∈ s.propertyNames ∧
      entry.2 = ⟨r.typeOfProperty className s entry.1, s.isOptional entry.1⟩ := by
  obtain ⟨name, p⟩ := entry
  simp only [interface, List.mem_map, Prod.mk.injEq]
  constructor
  · rintro ⟨name', hmem, rfl, rfl⟩
    exact ⟨hmem, rfl⟩
  · rintro ⟨hmem, rfl⟩
    exact ⟨name, hmem, rfl, rfl⟩

theorem map_fst_properties (r : Registry) (className : String) (s : Shape) :
    (r.interface className s).properties.map Prod.fst = s.propertyNames := by
  rw [interface, List.map_map]
  exact List.map_id _

theorem interface_congr (hcasts : s'.casts = s.casts) (hrules : s'.rules = s.rules)
    (hdefaults : s'.defaults.keys = s.defaults.keys) :
    r.interface className s' = r.interface className s := by
  have hnames : s'.propertyNames = s.propertyNames := by
    rw [Shape.propertyNames, Shape.propertyNames, hcasts, hrules, hdefaults]
  have hcontains : ∀ name, s'.defaults.contains name = s.defaults.contains name := by
    intro name
    rw [Bool.eq_iff_iff, ← PropertyMap.mem_keys_iff, ← PropertyMap.mem_keys_iff, hdefaults]
  simp only [interface, hnames, typeOfProperty, Shape.isOptional, hcasts, hrules, hcontains]

/-- The entry of a name depends on what the shape says about that name. -/
theorem mem_properties_congr {changed : String} (h : s.AgreesOff changed s')
    {entry : String × PropertyType} (hne : entry.1 ≠ changed) :
    entry ∈ (r.interface className s').properties ↔
      entry ∈ (r.interface className s).properties := by
  have hcast := h.casts entry.1 hne
  have hrules := h.rules entry.1 hne
  have hdefaults := h.defaults entry.1 hne
  have hnames : entry.1 ∈ s'.propertyNames ↔ entry.1 ∈ s.propertyNames := by
    have hcast : s'.casts.contains entry.1 = s.casts.contains entry.1 :=
      congrArg Option.isSome hcast
    have hrules : s'.rules.contains entry.1 = s.rules.contains entry.1 :=
      congrArg Option.isSome hrules
    rw [Shape.mem_propertyNames_iff, Shape.mem_propertyNames_iff, hcast, hrules, hdefaults]
  rw [mem_properties_iff, mem_properties_iff, hnames, typeOfProperty, typeOfProperty,
    Shape.isOptional, Shape.isOptional, hcast, hrules, hdefaults]

/-- **Interfaces, property by property.** An interface has one entry for each name of the casts,
then for each further name of the rules, then for each further name of the default values. The type
of an entry is the one that its places give; it is optional if there is a default value, or no
rules, or none of the rules has the word `required`. So the interface does not depend on what the
default values are, and an entry does not depend on what the shape says about other properties. -/
theorem interface_resolves (r : Registry) (className : String) (s : Shape) :
    ((r.interface className s).properties.map Prod.fst).Nodup ∧
    (r.interface className s).properties.map Prod.fst =
      s.casts.keys ++ s.rules.keys.filter (· ∉ s.casts.keys) ++
        s.defaults.keys.filter (fun name => name ∉ s.casts.keys ∧ name ∉ s.rules.keys) ∧
    (∀ entry ∈ (r.interface className s).properties,
      (∀ t, r.GivesType className s entry.1 t ↔ t = entry.2.type) ∧
      (entry.2.isOptional = true ↔ entry.1 ∈ s.defaults.keys ∨ entry.1 ∉ s.rules.keys ∨
        ∃ rules, s.rules.get? entry.1 = some rules ∧
          ∀ token ∈ rules.tokens, ¬ "required".toList <:+: token.toList)) ∧
    ∀ s' : Shape,
      (s'.casts = s.casts → s'.rules = s.rules → s'.defaults.keys = s.defaults.keys →
        r.interface className s' = r.interface className s) ∧
      ∀ changed, s.AgreesOff changed s' → ∀ entry : String × PropertyType, entry.1 ≠ changed →
        (entry ∈ (r.interface className s').properties ↔
          entry ∈ (r.interface className s).properties) := by
  refine ⟨?_, ?_, fun entry hentry => ?_, fun s' => ⟨interface_congr, fun changed h entry hne => ?_⟩⟩
  · rw [map_fst_properties]
    exact nodup_eraseDups _
  · rw [map_fst_properties, Shape.propertyNames_eq]
  · obtain ⟨-, hentry⟩ := mem_properties_iff.1 hentry
    rw [hentry]
    exact ⟨fun t => givesType_iff, Shape.isOptional_iff⟩
  · exact mem_properties_congr h hne

end Registry

end DtoInterfaces
