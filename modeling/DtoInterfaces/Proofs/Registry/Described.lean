import DtoInterfaces.Proofs.Registry.Registrations

/-!
# Classes that a manifest describes

A manifest describes a class by three maps and a mode of construction, and the registry that is
made of it holds a class with two ways of construction. Whoever asks for the shape of that class
tries the one and then the other, and meets the maps again at the end, or the message of the
failure twice. Which way has led to the maps does not show.

Two keys of a manifest can be spellings of one name. Then the later one describes the class, and
nothing of the earlier one is left, not even a map that the later one does not give.

## Main definitions

* `ClassDescription.outcome`, `ClassDescription.facts` — what a description promises.

## Main results

* `Registry.find?_ofManifest` — which description a name stands for.
* `Registry.ofManifest_keeps_described` — the registry of a manifest keeps what is described.
-/

namespace DtoInterfaces

namespace ClassDescription

/-- The shape that is described: every map that is given, and an empty one in place of every map
that is not. A class that is not constructed at all fails twice, with one message. -/
def outcome (c : ClassDescription) : Except ExtractError Shape :=
  match c.construction with
  | .standard | .bypass =>
    .ok ⟨c.casts.getD .empty, c.rules.getD .empty, c.defaults.getD .empty⟩
  | .unavailable =>
    let message := c.constructionError.getD stockConstructionError
    .error ⟨.failed message, .failed message⟩

/-- The facts that are described about a class of some name. -/
def facts (c : ClassDescription) (name : String) : ClassInfo where
  name := ClassName.normalize name
  parent := c.parent.map ClassName.normalize
  isAbstract := c.isAbstract
  properties := c.properties.toList.map fun property => ⟨property.1, property.2⟩

theorem info_entry (c : ClassDescription) (name : String) : (c.entry name).info = c.facts name := by
  unfold entry
  cases c.construction <;> rfl

theorem facts_congr (c : ClassDescription) {name name' : String}
    (h : ClassName.normalize name = ClassName.normalize name') : c.facts name = c.facts name' := by
  rw [facts, facts, h]

end ClassDescription

namespace Registry

variable {r : Registry} {m : Manifest} {c : ClassDescription} {key name : String}

/-- **One class.** Its shape is what its description promises, whichever way of construction has led
there: empty input is refused by a class that needs the other way, and then that way is tried. -/
theorem extractShape_of_described (h : r.find? name = some (c.entry key)) :
    r.extractShape name = c.outcome := by
  unfold extractShape instantiate
  rw [h]
  unfold ClassDescription.entry ClassDescription.outcome
  cases c.construction with
  | standard => exact congrArg Except.ok (DtoInstance.shape_ofMaps c.casts c.rules c.defaults)
  | bypass => exact congrArg Except.ok (DtoInstance.shape_ofMaps c.casts c.rules c.defaults)
  | unavailable => rfl

theorem ofManifest_eq (m : Manifest) : ofManifest m = ofSteps [.manifest m] := rfl

/-- **A name stands for the last description** under one of its spellings. -/
theorem find?_ofManifest (m : Manifest) (name : String) :
    (ofManifest m).find? name =
      (lastUnder? Prod.fst m.classes.toList name).map fun described =>
        described.2.entry described.1 := by
  have hlog : classLog [.manifest m] = m.classes.toList.map NamedClass.ofDescription :=
    List.append_nil _
  rw [ofManifest_eq, find?_ofSteps, hlog, lastUnder?, List.filter_map, List.getLast?_map,
    Option.map_map]
  simp only [Function.comp_def]
  rfl

/-- There is a description under a name as soon as some key is a spelling of it. -/
theorem exists_lastUnder? {ι : Type} {nameOf : ι → String} {log : List ι} {e : ι} (he : e ∈ log)
    (hname : ClassName.normalize (nameOf e) = ClassName.normalize name) :
    ∃ last, lastUnder? nameOf log name = some last ∧
      ClassName.normalize (nameOf last) = ClassName.normalize name := by
  have hmem : e ∈ log.filter fun e => ClassName.normalize (nameOf e) = ClassName.normalize name :=
    List.mem_filter.2 ⟨he, decide_eq_true hname⟩
  obtain ⟨last, hlast⟩ := Option.isSome_iff_exists.1
    (List.getLast?_isSome.2 (List.ne_nil_of_mem hmem))
  refine ⟨last, hlast, ?_⟩
  simpa using (List.mem_filter.1 (List.mem_of_getLast? hlast)).2

/-- **The registry of a manifest keeps what is described.** Of the descriptions whose keys are
spellings of a name the last one counts: the class has the shape that it promises, or fails as it
says, and the facts about the class are those that it states. -/
theorem ofManifest_keeps_described (m : Manifest) {name : String}
    (h : ∃ key ∈ m.classes.keys, ClassName.normalize key = ClassName.normalize name) :
    ∃ key c, lastUnder? Prod.fst m.classes.toList name = some (key, c) ∧
      (ofManifest m).extractShape name = c.outcome ∧
      (ofManifest m).classInfo? name = some (c.facts name) := by
  obtain ⟨key, hkey, hname⟩ := h
  obtain ⟨described, hmem, rfl⟩ : ∃ described ∈ m.classes.toList, described.1 = key :=
    List.mem_map.1 hkey
  obtain ⟨⟨last, c⟩, hlast, hspelling⟩ := exists_lastUnder? hmem hname
  have hfind : (ofManifest m).find? name = some (c.entry last) := by
    rw [find?_ofManifest, hlast]
    rfl
  refine ⟨last, c, hlast, extractShape_of_described hfind, ?_⟩
  rw [classInfo?, hfind, Option.map_some, ClassDescription.info_entry,
    ClassDescription.facts_congr c hspelling]

/-- A description with casts, of a class that cannot be constructed. -/
def closedNote : ClassDescription :=
  { ClassDescription.blank with
    construction := .unavailable
    casts := some (.ofList [("id", .primitive .integer)]) }

/-- A description with rules, of a class whose constructor has to be bypassed. -/
def ruledNote : ClassDescription :=
  { ClassDescription.blank with
    parent := some "\\Base"
    construction := .bypass
    rules := some (.ofList [("title", ⟨["required"]⟩)])
    properties := .ofList [("title", some "StringCast"), ("body", none)] }

/-- A manifest that describes one class twice. -/
def twiceDescribed : Manifest :=
  ⟨.ofList [("App\\Note", closedNote), ("\\App\\Note", ruledNote)], .empty⟩

/-- Asked for in a third spelling, the class has the rules of the second description and nothing of
the first. -/
theorem ofManifest_keeps_described_twice :
    (∃ key ∈ twiceDescribed.classes.keys,
      ClassName.normalize key = ClassName.normalize " App\\Note") ∧
    (ofManifest twiceDescribed).extractShape " App\\Note" =
      .ok ⟨.empty, .ofList [("title", ⟨["required"]⟩)], .empty⟩ ∧
    (ofManifest twiceDescribed).classInfo? " App\\Note" =
      some ⟨"App\\Note", some "Base", false, [⟨"title", some "StringCast"⟩, ⟨"body", none⟩]⟩ := by
  have hkey : ∃ key ∈ twiceDescribed.classes.keys,
      ClassName.normalize key = ClassName.normalize " App\\Note" :=
    ⟨"App\\Note", by decide +kernel, by decide +kernel⟩
  have hlog : lastUnder? Prod.fst twiceDescribed.classes.toList " App\\Note" =
      some ("\\App\\Note", ruledNote) := by
    rfl
  have hfacts : ruledNote.facts " App\\Note" =
      ⟨"App\\Note", some "Base", false, [⟨"title", some "StringCast"⟩, ⟨"body", none⟩]⟩ := by
    decide +kernel
  obtain ⟨key, c, hlast, hshape, hinfo⟩ := ofManifest_keeps_described twiceDescribed hkey
  rw [hlog] at hlast
  cases hlast
  rw [hfacts] at hinfo
  exact ⟨hkey, hshape, hinfo⟩

end Registry

end DtoInterfaces
