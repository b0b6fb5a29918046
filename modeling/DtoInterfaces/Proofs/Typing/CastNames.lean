import DtoInterfaces.Proofs.Text.Trimming
import DtoInterfaces.Proofs.Typing.Resolution

/-!
# Names of casts

A cast is named in three places: by a bare name in the casts of a class, by the kind of a tagged
cast there, and by the annotation of a declared property. Each place looks the name up when it is
its turn, the first two while a manifest is read and the third while an interface is made. The type
is the same in all of them, because each asks for the kind of the name and for nothing else.

What a name says is its short form. Blanks around the name and separators in front of it are gone
there, and so is everything up to the last separator behind them; a name of a kind holds neither
blanks nor separators, so it is its own short form, however it is qualified.

There are two exceptions, both of tagged casts. A kind that says `dto` is about a nested class,
which has to be named; and an enum that is named has the type of its cases.

## Main definitions

* `CastKind.names` — the two names of a kind.
* `CastKind.typeOfName` — the type that a name stands for.
* `Registry.ReadsAs` — a document is read as a cast of a type.
* `Registry.NameGives` — a name gives a type wherever it is written.

## Main results

* `ClassName.short_append` — qualifying a word leaves its short form as it is.
* `CastKind.ofName?_eq_some_iff` — the kind of a name, by its short form.
* `Registry.castNames_agree` — all spellings of a cast agree.
-/

namespace DtoInterfaces

/-! ### Short names -/

namespace Text

theorem afterLast_dropWhile (separator : Char) (cs : List Char) :
    afterLast separator (cs.dropWhile (· == separator)) = afterLast separator cs := by
  induction cs with
  | nil => rfl
  | cons c cs ih =>
    by_cases hc : c = separator
    · subst hc
      rw [List.dropWhile_cons_of_pos (by simp), ih]
      exact (afterLast_append_cons c [] cs).symm
    · rw [List.dropWhile_cons_of_neg (by simpa using hc)]

end Text

namespace ClassName

theorem toList_short (name : String) :
    (short name).toList = Text.afterLast separator (Text.trim name.toList) := by
  rw [short, lastPart, String.toList_ofList, toList_normalize, normalChars,
    Text.afterLast_dropWhile]

/-- A character of a word: neither a blank nor the separator. -/
def isWordChar (c : Char) : Bool := !Text.isBlank c && c != separator

/-- A name that is a single word. -/
def IsWord (name : String) : Prop := name.toList ≠ [] ∧ name.toList.all isWordChar = true

instance (name : String) : Decidable (IsWord name) := inferInstanceAs (Decidable (_ ∧ _))

variable {word : String}

theorem trim_append_word (h : IsWord word) (before : List Char) :
    Text.trim (before ++ word.toList) = Text.trimStart before ++ word.toList := by
  obtain ⟨hne, hall⟩ := h
  have hblank : ∀ c ∈ word.toList, Text.isBlank c = false := by
    intro c hc
    have hword := List.all_eq_true.1 hall c hc
    simp only [isWordChar, Bool.and_eq_true, Bool.not_eq_true'] at hword
    exact hword.1
  obtain ⟨c, after, hcs⟩ := List.exists_cons_of_ne_nil hne
  rw [hcs] at hblank ⊢
  exact Text.trim_append_cons (hblank c List.mem_cons_self)
    (fun d hd => hblank d (List.mem_of_mem_getLast? hd)) before

theorem separator_not_mem_word (h : IsWord word) : separator ∉ word.toList := by
  intro hmem
  have hword := List.all_eq_true.1 h.2 separator hmem
  simp [isWordChar] at hword

theorem short_word (h : IsWord word) : short word = word := by
  have htrim := trim_append_word h []
  rw [List.nil_append] at htrim
  rw [← String.toList_inj, toList_short, htrim]
  exact Text.afterLast_eq_self (separator_not_mem_word h)

/-- **Qualifying a word** leaves its short form as it is. -/
theorem short_append (h : IsWord word) (p : String) : short (p ++ "\\" ++ word) = word := by
  have htrim := trim_append_word h (p.toList ++ [separator])
  rw [List.append_assoc, List.singleton_append] at htrim
  have hsep : Text.isBlank separator = false := by decide
  have hstart : Text.trimStart (p.toList ++ [separator]) = Text.trimStart p.toList ++ [separator] :=
    Text.trimStart_append_cons hsep p.toList []
  have hcs : (p ++ "\\" ++ word).toList = p.toList ++ separator :: word.toList := by
    rw [String.toList_append, String.toList_append, List.append_assoc]
    rfl
  rw [← String.toList_inj, toList_short, hcs, htrim, hstart, List.append_assoc,
    List.singleton_append, Text.afterLast_append_cons,
    Text.afterLast_eq_self (separator_not_mem_word h)]

end ClassName

/-! ### Kinds of names -/

namespace CastKind

variable {kind : CastKind} {name : String}

/-- The names of a kind. -/
def names (kind : CastKind) : List String := [kind.name, kind.className]

theorem isWord_of_mem_names (h : name ∈ kind.names) : ClassName.IsWord name := by
  have hall : all.all (fun kind => kind.names.all fun name => ClassName.IsWord name) = true := by
    decide +kernel
  have hkind := List.all_eq_true.1 hall kind (mem_all kind)
  simpa using List.all_eq_true.1 hkind name h

/-- No two kinds have a name in common. -/
theorem eq_of_mem_names {kind' : CastKind} (h : name ∈ kind.names) (h' : name ∈ kind'.names) :
    kind = kind' := by
  have hall : all.all (fun kind => all.all fun kind' =>
      kind.names.all fun name => name ∉ kind'.names ∨ kind = kind') = true := by
    decide +kernel
  have hkind := List.all_eq_true.1 (List.all_eq_true.1 hall kind (mem_all kind)) kind'
    (mem_all kind')
  have hname := List.all_eq_true.1 hkind name h
  rw [decide_eq_true_eq] at hname
  exact hname.resolve_left (not_not_intro h')

/-- **The kind of a name** is the one that its short form names. -/
theorem ofName?_eq_some_iff : ofName? name = some kind ↔ ClassName.short name ∈ kind.names := by
  have htest : ∀ kind : CastKind, (kind.name == ClassName.short name ||
      kind.className == ClassName.short name) = true ↔ ClassName.short name ∈ kind.names := by
    intro kind
    rw [names, List.mem_cons, List.mem_singleton, Bool.or_eq_true, beq_iff_eq, beq_iff_eq,
      eq_comm, eq_comm (a := kind.className)]
  rw [ofName?]
  constructor
  · intro h
    have hfound := List.find?_some h
    exact (htest kind).1 hfound
  · intro h
    cases hfind : all.find? fun kind =>
      kind.name == ClassName.short name || kind.className == ClassName.short name with
    | none => exact absurd ((htest kind).2 h) (List.find?_eq_none.1 hfind kind (mem_all kind))
    | some kind' =>
      have hfound := List.find?_some hfind
      rw [eq_of_mem_names ((htest kind').1 hfound) h]

theorem ofName?_of_mem_names (h : name ∈ kind.names) (p : String) :
    ofName? name = some kind ∧ ofName? (p ++ "\\" ++ name) = some kind := by
  have hword := isWord_of_mem_names h
  rw [ofName?_eq_some_iff, ofName?_eq_some_iff, ClassName.short_word hword,
    ClassName.short_append hword]
  exact ⟨h, h⟩

/-- The type that a name stands for; nothing is known if it is no name of a kind. -/
def typeOfName (name : String) : TypeExpr := (ofName? name).elim .any type

theorem ofName?_eq_none (h : ∀ kind : CastKind, ClassName.short name ∉ kind.names) :
    ofName? name = none ∧ typeOfName name = .any := by
  have hnone : ofName? name = none := by
    rw [Option.eq_none_iff_forall_ne_some]
    intro kind hkind
    exact h kind (ofName?_eq_some_iff.1 hkind)
  rw [typeOfName, hnone]
  exact ⟨rfl, rfl⟩

end CastKind

/-! ### Casts that are read -/

theorem isNestedKind_iff {kind : String} : isNestedKind kind = true ↔
    ClassName.short kind = "dto" ∨ ClassName.short kind = "DTOCast" := by
  rw [isNestedKind, Bool.or_eq_true, beq_iff_eq, beq_iff_eq]

namespace CastSpelling

variable {kind : String} {className enumName : Option String} {spelling : CastSpelling}
  {d : Json.Doc} {depth : Nat}

theorem read_of_ofDoc? (hd : d.readable depth = true) (h : ofDoc? d = some spelling) :
    Cast.read depth d = spelling.cast.mapError .unsuitable := by
  rw [Cast.read, Json.Reader.shaped, if_pos hd, h]
  rfl

/-- The document of a tagged cast with all of its members, `null` for those that are missing. -/
def taggedDoc (kind : String) (className enumName : Option String) : Json.Doc :=
  .object [(.name "kind", .string kind), (.name "class", className.elim .null .string),
    (.name "enum", enumName.elim .null .string)]

theorem ofDoc?_taggedDoc (kind : String) (className enumName : Option String) :
    ofDoc? (taggedDoc kind className enumName) = some (.tagged kind className enumName) := by
  cases className <;> cases enumName <;>
    simp [taggedDoc, ofDoc?, Json.Reader.recordMembers, TaggedCast.fields,
      Json.Reader.Field.setting, Json.Reader.text, Json.Reader.nullable, Except.map, Bind.bind,
      Except.bind]

/-- A tagged cast that is about no nested class and no named enum is what its kind says. -/
theorem cast_tagged (hkind : ¬ isNestedKind kind)
    (henum : enumName = none ∨ CastKind.ofName? kind ≠ some .enum) :
    (tagged kind className enumName).cast = .ok (.ofName kind) := by
  rw [cast.eq_def, Cast.ofName]
  dsimp only
  rw [if_neg hkind]
  obtain ⟨k, hk⟩ : ∃ k, CastKind.ofName? kind = k := ⟨_, rfl⟩
  rw [hk] at henum ⊢
  cases k with
  | none => rfl
  | some k =>
    obtain rfl | hne := henum
    · cases k <;> rfl
    · cases k with
      | enum => exact absurd rfl hne
      | _ => rfl

end CastSpelling

namespace Registry

variable {r : Registry} {d : Json.Doc} {spelling : CastSpelling} {cast : Cast}

/-- The document is read as a cast that gives the type `t` to every property that has it. -/
def ReadsAs (r : Registry) (d : Json.Doc) (t : TypeExpr) : Prop :=
  ∀ depth, d.readable depth = true → ∃ cast, Cast.read depth d = .ok cast ∧
    ∀ (className property : String) (s : Shape), s.casts.get? property = some cast →
      r.typeOfProperty className s property = t

theorem readsAs_of_spelling (h : CastSpelling.ofDoc? d = some spelling)
    (hcast : spelling.cast = .ok cast) : r.ReadsAs d (r.typeOfCast cast) := by
  intro depth hd
  refine ⟨cast, ?_, fun className property s hs => typeOfProperty_of_cast hs⟩
  rw [CastSpelling.read_of_ofDoc? hd h, hcast]
  rfl

theorem typeOfCast_ofName (r : Registry) (name : String) :
    r.typeOfCast (.ofName name) = CastKind.typeOfName name := by
  rw [Cast.ofName, CastKind.typeOfName]
  cases CastKind.ofName? name <;> rfl

/-- The name gives the type `t` wherever it names a cast. Tagged casts of nested classes are read as
references to the interfaces of these classes, and not at all if no class is named. -/
structure NameGives (r : Registry) (name : String) (t : TypeExpr) : Prop where
  bare : r.ReadsAs (.string name) t
  annotated : ∀ (className property : String) (s : Shape) (decl : PropertyDecl),
    property ∉ s.casts.keys → property ∉ s.rules.keys →
    r.declaredProperty? className property = some decl → decl.cast = some name →
    r.typeOfProperty className s property = t
  tagged : ∀ d className enumName,
    CastSpelling.ofDoc? d = some (.tagged name className enumName) →
    ¬ (ClassName.short name = "dto" ∨ ClassName.short name = "DTOCast") →
    enumName = none ∨ CastKind.ofName? name ≠ some .enum → r.ReadsAs d t
  nested : ∀ d className enumName,
    CastSpelling.ofDoc? d = some (.tagged name (some className) enumName) →
    ClassName.short name = "dto" ∨ ClassName.short name = "DTOCast" →
    r.ReadsAs d (.reference (ClassName.interfaceName className))
  rejected : ∀ d enumName, CastSpelling.ofDoc? d = some (.tagged name none enumName) →
    ClassName.short name = "dto" ∨ ClassName.short name = "DTOCast" →
    ∀ depth, d.readable depth = true →
      Cast.read depth d = .error (.unsuitable (.classRequired name))

/-- A name gives its type. -/
theorem nameGives_typeOfName (r : Registry) (name : String) :
    r.NameGives name (CastKind.typeOfName name) where
  bare := by
    have hdoc : CastSpelling.ofDoc? (.string name) = some (.name name) := rfl
    have hcast : (CastSpelling.name name).cast = .ok (.ofName name) := rfl
    rw [← typeOfCast_ofName r]
    exact readsAs_of_spelling hdoc hcast
  annotated className property s decl hcasts hrules hdecl hcast := by
    rw [typeOfProperty_of_not_mem hcasts hrules, typeOfDeclaration, hdecl, Option.bind_some, hcast,
      Option.bind_some, CastKind.typeOfName]
  tagged d className enumName h hkind henum := by
    rw [← isNestedKind_iff] at hkind
    rw [← typeOfCast_ofName r]
    exact readsAs_of_spelling h (CastSpelling.cast_tagged hkind henum)
  nested d className enumName h hkind := by
    have hcast : (CastSpelling.tagged name (some className) enumName).cast =
        .ok (.nested className) := by
      rw [CastSpelling.cast.eq_def]
      exact if_pos (isNestedKind_iff.2 hkind)
    exact readsAs_of_spelling h hcast
  rejected d enumName h hkind depth hd := by
    have hcast : (CastSpelling.tagged name none enumName).cast =
        .error (.classRequired name) := by
      rw [CastSpelling.cast.eq_def]
      exact if_pos (isNestedKind_iff.2 hkind)
    rw [CastSpelling.read_of_ofDoc? hd h, hcast]
    rfl

/-- **All spellings of a cast agree.** Whatever a name is, it gives one type, as a bare cast, as the
annotation of a declared property and as the kind of a tagged cast; only a kind that says `dto`
stands for the class that is named beside it. The name of a kind means that kind under every
qualification, and a name whose short form is none of these names means none and tells nothing. -/
theorem castNames_agree (r : Registry) :
    (∀ name, r.NameGives name (CastKind.typeOfName name)) ∧
    (∀ kind : CastKind, ∀ name ∈ kind.names, ∀ p : String,
      CastKind.ofName? name = some kind ∧ CastKind.ofName? (p ++ "\\" ++ name) = some kind) ∧
    ∀ name, (∀ kind : CastKind, ClassName.short name ∉ kind.names) →
      CastKind.ofName? name = none ∧ CastKind.typeOfName name = .any := by
  refine ⟨fun name => nameGives_typeOfName r name, ?_, fun name h => CastKind.ofName?_eq_none h⟩
  intro kind name hname p
  exact CastKind.ofName?_of_mem_names hname p

/-- A point in time in three spellings, a nested class, and a name that only its host knows. -/
theorem castNames_agree_carbon :
    empty.ReadsAs (.string " \\Casts\\CarbonCast") .string ∧
    empty.ReadsAs (CastSpelling.taggedDoc "carbon" (some "App\\Note") (some "App\\Color"))
      .string ∧
    empty.ReadsAs (CastSpelling.taggedDoc "App\\dto" (some "App\\NoteDTO") none)
      (.reference "NoteInterface") ∧
    CastKind.ofName? "App \\\\CarbonCast" = some .carbon ∧
    CastKind.ofName? "carbon\\Money" = none ∧ CastKind.typeOfName "carbon\\Money" = .any := by
  obtain ⟨hgives, hnames, hother⟩ := castNames_agree empty
  have hbare : CastKind.typeOfName " \\Casts\\CarbonCast" = .string := by decide +kernel
  have hplain : CastKind.typeOfName "carbon" = .string := by decide +kernel
  have hinterface : ClassName.interfaceName "App\\NoteDTO" = "NoteInterface" := by decide +kernel
  have hmoney : CastKind.all.all (fun kind =>
      ClassName.short "carbon\\Money" ∉ kind.names) = true := by
    decide +kernel
  refine ⟨?_, ?_, ?_, (hnames .carbon "CarbonCast" (by decide +kernel) "App \\").2,
    hother _ fun kind => ?_⟩
  · rw [← hbare]
    exact (hgives _).bare
  · rw [← hplain]
    exact (hgives "carbon").tagged _ _ _ (CastSpelling.ofDoc?_taggedDoc _ _ _) (by decide +kernel)
      (.inr (by decide +kernel))
  · rw [← hinterface]
    exact (hgives "App\\dto").nested _ _ _ (CastSpelling.ofDoc?_taggedDoc _ _ _)
      (by decide +kernel)
  · simpa using List.all_eq_true.1 hmoney kind (CastKind.mem_all kind)

end Registry

end DtoInterfaces
