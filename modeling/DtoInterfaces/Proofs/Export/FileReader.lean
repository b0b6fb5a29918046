import DtoInterfaces.Export.File
import Mathlib.Data.List.Basic

/-!
# Generated files read back

From the text of a generated file one can read when it was generated and, interface by interface,
its name and its properties: the name of each, whether it is optional, and the text of its type.
All that is asked for is that names and types fit on their lines, and that the name of a property
ends where it seems to end. What stands in a type does not matter, not even semicolons, braces, or
whole declarations between quotes.

## One list of lines

The file joins its blocks by empty lines, and a block joins its lines by line feeds. Joining blocks
by two line feeds is the same as putting an empty line between their lists of lines and joining all
lines by one. So the text is split into lines first, and the lines into blocks then, and the two
splits are the same function at two types. The first one is exact because no line holds a line feed,
the second one because no line of a block is empty.

A file without blocks still has a line in their place. It is empty, which no line of a block is.

## Main definitions

* `Outline`, `Interface.outline` — what is read off an interface.
* `Interface.IsLegible` — the names and types that are read back.
* `FileReader.read?` — the reader.
* `FileReader.fileLines` — the lines of a generated file.

## Main results

* `FileReader.toList_fileText` — the text is its lines, joined.
* `FileReader.body?_bodyLines` — the lines of the blocks are read as their outlines.
* `FileReader.read?_fileText` — generated files read back.
-/

namespace DtoInterfaces

/-! ### Outlines -/

/-- What is read off the line of a property. -/
structure PropertyOutline where
  name : String
  isOptional : Bool
  /-- The text of the type. -/
  type : String
deriving DecidableEq

/-- What is read off the block of an interface. -/
structure Outline where
  name : String
  properties : List PropertyOutline
deriving DecidableEq

/-- The outline of a property. -/
def PropertyOutline.of (property : String × PropertyType) : PropertyOutline :=
  ⟨property.1, property.2.isOptional, property.2.type.text⟩

namespace Interface

/-- The outline of an interface. -/
def outline (i : Interface) : Outline := ⟨i.name, i.properties.map .of⟩

/-- Whether an interface can be read off its block. -/
structure IsLegible (i : Interface) : Prop where
  /-- The name of the interface stays on its line. -/
  name : '\n' ∉ i.name.toList
  /-- The name of a property stays on its line and ends where the first mark behind it stands. -/
  propertyName : ∀ p ∈ i.properties, '\n' ∉ p.1.toList ∧ ':' ∉ p.1.toList ∧ '?' ∉ p.1.toList
  /-- The type of a property stays on its line. -/
  propertyType : ∀ p ∈ i.properties, '\n' ∉ p.2.type.write

end Interface

/-! ### The reader -/

namespace FileReader

/-- How the first line of a block starts. -/
def opening : List Char := "export interface ".toList

/-- How the second line of a file starts. -/
def timeLabel : List Char := "// Generated at: ".toList

/-- What stands between two texts. -/
def between? (front back cs : List Char) : Option (List Char) :=
  (cs.dropPrefix? front).bind fun cs => cs.dropSuffix? back

/-- Whether a character does not end the name of a property. -/
def inName (c : Char) : Bool := c != ':' && c != '?'

/-- Read the line of a property. -/
def property? (line : List Char) : Option PropertyOutline :=
  (between? [' ', ' '] [';'] line).bind fun cs =>
    match cs.dropWhile inName with
    | '?' :: ':' :: ' ' :: type =>
      some ⟨String.ofList (cs.takeWhile inName), true, String.ofList type⟩
    | ':' :: ' ' :: type =>
      some ⟨String.ofList (cs.takeWhile inName), false, String.ofList type⟩
    | _ => none

/-- Read the lines of some properties and the line that closes the block behind them. -/
def properties? : List (List Char) → Option (List PropertyOutline)
  | [] => none
  | line :: lines =>
    if line = ['\x7d'] then if lines = [] then some [] else none
    else (property? line).bind fun property => (properties? lines).map (property :: ·)

/-- Read the lines of a block. -/
def interface? : List (List Char) → Option Outline
  | [] => none
  | line :: lines =>
    (between? opening [' ', '\x7b'] line).bind fun name =>
      (properties? lines).map fun properties => ⟨String.ofList name, properties⟩

/-- Read the lines of all blocks. -/
def body? (lines : List (List Char)) : Option (List Outline) :=
  if lines = [[]] then some [] else (lines.splitOn []).mapM interface?

/-- Read a generated file: the time that its header shows, and its interfaces. -/
def read? (text : String) : Option (String × List Outline) :=
  match text.toList.splitOn '\n' with
  | title :: time :: notice :: [] :: lines =>
    if title = headerTitle.toList ∧ notice = headerNotice.toList ∧ lines.getLast? = some [] then
      (time.dropPrefix? timeLabel).bind fun time =>
        (body? lines.dropLast).map fun outlines => (String.ofList time, outlines)
    else none
  | _ => none

/-! ### Lines -/

section Lines

variable {α : Type}

/-- Two joined lists are joined by one more separator. -/
theorem intercalate_append (sep : List α) {ls ls' : List (List α)} (h : ls ≠ []) (h' : ls' ≠ []) :
    sep.intercalate (ls ++ ls') = sep.intercalate ls ++ sep ++ sep.intercalate ls' := by
  induction ls with
  | nil => exact absurd rfl h
  | cons l ls ih =>
    cases ls with
    | nil =>
      obtain ⟨l', ls', rfl⟩ := List.exists_cons_of_ne_nil h'
      rw [List.singleton_append, List.intercalate_cons_cons, List.intercalate_singleton]
    | cons l₂ ls =>
      have hrest := ih (List.cons_ne_nil l₂ ls)
      rw [List.cons_append] at hrest
      rw [List.cons_append, List.cons_append, List.intercalate_cons_cons, hrest,
        List.intercalate_cons_cons]
      simp only [List.append_assoc]

theorem intercalate_ne_nil (sep : List α) {ls : List (List α)} (h : ls ≠ [])
    (hne : ∀ l ∈ ls, l ≠ []) : sep.intercalate ls ≠ [] := by
  obtain ⟨l, ls, rfl⟩ := List.exists_cons_of_ne_nil h
  have hl : l ≠ [] := hne l List.mem_cons_self
  cases ls with
  | nil => rwa [List.intercalate_singleton]
  | cons l' ls =>
    rw [List.intercalate_cons_cons, List.append_assoc]
    exact List.append_ne_nil_of_left_ne_nil hl _

/-- What is joined consists of separators and members. -/
theorem mem_intercalate {sep : List α} {ls : List (List α)} {a : α} (h : a ∈ sep.intercalate ls) :
    a ∈ sep ∨ ∃ l ∈ ls, a ∈ l := by
  induction ls with
  | nil => cases h
  | cons l ls ih =>
    cases ls with
    | nil =>
      rw [List.intercalate_singleton] at h
      exact .inr ⟨l, List.mem_cons_self, h⟩
    | cons l' ls =>
      rw [List.intercalate_cons_cons, List.mem_append, List.mem_append] at h
      rcases h with (h | h) | h
      · exact .inr ⟨l, List.mem_cons_self, h⟩
      · exact .inl h
      · rcases ih h with h | ⟨l₂, hmem, h⟩
        · exact .inl h
        · exact .inr ⟨l₂, List.mem_cons_of_mem l hmem, h⟩

/-- **Joining blocks by two line feeds** is joining their lines, with an empty one between blocks, by
one. -/
theorem intercalate_blocks {blocks : List (List (List Char))} (hne : ∀ b ∈ blocks, b ≠ []) :
    ['\n', '\n'].intercalate (blocks.map fun b => ['\n'].intercalate b) =
      ['\n'].intercalate ([[]].intercalate blocks) := by
  induction blocks with
  | nil => rfl
  | cons b blocks ih =>
    cases blocks with
    | nil => simp only [List.map_cons, List.map_nil, List.intercalate_singleton]
    | cons b' blocks =>
      have hrest : ∀ b ∈ b' :: blocks, b ≠ [] := fun b hb => hne b (List.mem_cons_of_mem _ hb)
      have hlater : [[]].intercalate (b' :: blocks) ≠ [] :=
        intercalate_ne_nil _ (List.cons_ne_nil _ _) hrest
      have hb : b ≠ [] := hne b List.mem_cons_self
      calc ['\n', '\n'].intercalate ((b :: b' :: blocks).map fun b => ['\n'].intercalate b)
          = ['\n'].intercalate b ++ ['\n', '\n'] ++
              ['\n', '\n'].intercalate ((b' :: blocks).map fun b => ['\n'].intercalate b) := by
            simp only [List.map_cons, List.intercalate_cons_cons]
        _ = ['\n'].intercalate b ++ ['\n', '\n'] ++
              ['\n'].intercalate ([[]].intercalate (b' :: blocks)) := by
            rw [ih hrest]
        _ = ['\n'].intercalate b ++ ['\n'] ++
              ['\n'].intercalate ([[]] ++ [[]].intercalate (b' :: blocks)) := by
            rw [intercalate_append _ (List.cons_ne_nil _ _) hlater, List.intercalate_singleton]
            simp
        _ = ['\n'].intercalate ([[]].intercalate (b :: b' :: blocks)) := by
            have hmore : [[]] ++ [[]].intercalate (b' :: blocks) ≠ [] := List.cons_ne_nil _ _
            rw [List.intercalate_cons_cons, List.append_assoc b, intercalate_append _ hb hmore]

end Lines

/-- The lines of some blocks: an empty one between two blocks, or in the place of all blocks. -/
def bodyLines (is : List Interface) : List (List Char) :=
  if is = [] then [[]] else [[]].intercalate (is.map Interface.lines)

/-- The lines of a generated file. The last one is empty: the text ends with a line feed. -/
def fileLines (is : List Interface) (time : String) : List (List Char) :=
  [headerTitle.toList, (headerTime time).toList, headerNotice.toList, []] ++
    (bodyLines is ++ [[]])

variable {i : Interface} {is is' : List Interface} {time time' : String}

theorem toList_headerTime (time : String) :
    (headerTime time).toList = timeLabel ++ time.toList := String.toList_append

theorem lines_ne_nil (i : Interface) : i.lines ≠ [] := List.cons_ne_nil _ _

theorem bodyLines_ne_nil (is : List Interface) : bodyLines is ≠ [] := by
  unfold bodyLines
  split
  · exact List.cons_ne_nil _ _
  · rename_i h
    refine intercalate_ne_nil _ (by simpa using h) fun ls hls => ?_
    obtain ⟨i, -, rfl⟩ := List.mem_map.1 hls
    exact lines_ne_nil i

/-- The blocks of a file are their lines, joined. -/
theorem intercalate_write (is : List Interface) :
    ['\n', '\n'].intercalate (is.map Interface.write) = ['\n'].intercalate (bodyLines is) := by
  have hmap : is.map Interface.write =
      (is.map Interface.lines).map fun ls => ['\n'].intercalate ls := by
    rw [List.map_map]
    rfl
  unfold bodyLines
  split
  · rename_i h
    rw [h]
    rfl
  · rw [hmap, intercalate_blocks]
    intro ls hls
    obtain ⟨i, -, rfl⟩ := List.mem_map.1 hls
    exact lines_ne_nil i

/-- **The text of a file** is its lines, joined by line feeds. -/
theorem toList_fileText (is : List Interface) (time : String) :
    (fileText (is.map Interface.write) time).toList = ['\n'].intercalate (fileLines is time) := by
  have hheader : ∀ ls : List (List Char), ls ≠ [] →
      ['\n'].intercalate ([headerTitle.toList, (headerTime time).toList, headerNotice.toList, []] ++
        ls) = ['\n'].intercalate [headerTitle.toList, (headerTime time).toList,
          headerNotice.toList, []] ++ ['\n'] ++ ['\n'].intercalate ls :=
    fun ls hls => intercalate_append _ (List.cons_ne_nil _ _) hls
  have hbody : ['\n'].intercalate (bodyLines is ++ [[]]) =
      ['\n'].intercalate (bodyLines is) ++ ['\n'] := by
    rw [intercalate_append _ (bodyLines_ne_nil is) (List.cons_ne_nil _ _),
      List.intercalate_singleton, List.append_nil]
  have hfile : writeFile (is.map Interface.write) time =
      ['\n'].intercalate ([headerTitle.toList, (headerTime time).toList, headerNotice.toList, []] ++
        [['\n'].intercalate (bodyLines is)]) ++ ['\n'] := by
    rw [writeFile, intercalate_write]
    rfl
  rw [fileText, String.toList_ofList, hfile, hheader _ (List.cons_ne_nil _ _),
    List.intercalate_singleton, fileLines,
    hheader _ (List.append_ne_nil_of_left_ne_nil (bodyLines_ne_nil is) _), hbody]
  simp only [List.append_assoc]

theorem propertyLine_eq (p : String × PropertyType) :
    Interface.propertyLine p =
      [' ', ' '] ++ (p.1.toList ++ ((if p.2.isOptional then ['?'] else []) ++
        ':' :: ' ' :: p.2.type.write)) ++ [';'] := by
  simp [Interface.propertyLine, writeProperty]

theorem newline_not_mem_propertyLine {p : String × PropertyType} (hname : '\n' ∉ p.1.toList)
    (htype : '\n' ∉ p.2.type.write) : '\n' ∉ Interface.propertyLine p := by
  have hmark : '\n' ∉ (if p.2.isOptional then ['?'] else []) := by
    split <;> decide
  rw [propertyLine_eq]
  simp [hname, htype, hmark]

/-- The lines of a legible interface hold no line feed. -/
theorem newline_not_mem_lines (h : i.IsLegible) : ∀ l ∈ i.lines, '\n' ∉ l := by
  intro l hl
  rcases List.mem_cons.1 hl with hl | hl
  · have hopening : '\n' ∉ "export interface ".toList := by decide +kernel
    have hclosing : '\n' ∉ [' ', '\x7b'] := by decide
    subst hl
    unfold Interface.openingLine
    simp only [List.mem_append, not_or]
    exact ⟨⟨hopening, h.name⟩, hclosing⟩
  · rcases List.mem_append.1 hl with hl | hl
    · obtain ⟨p, hp, rfl⟩ := List.mem_map.1 hl
      exact newline_not_mem_propertyLine (h.propertyName p hp).1 (h.propertyType p hp)
    · rw [List.mem_singleton.1 hl]
      decide

/-- The lines of a file hold no line feed if the time and the interfaces do not. -/
theorem newline_not_mem_fileLines (htime : '\n' ∉ time.toList) (his : ∀ i ∈ is, i.IsLegible) :
    ∀ l ∈ fileLines is time, '\n' ∉ l := by
  have htitle : '\n' ∉ headerTitle.toList := by decide +kernel
  have hnotice : '\n' ∉ headerNotice.toList := by decide +kernel
  have hheader : '\n' ∉ (headerTime time).toList := by
    have hlabel : '\n' ∉ timeLabel := by decide +kernel
    rw [toList_headerTime, List.mem_append, not_or]
    exact ⟨hlabel, htime⟩
  have hbody : ∀ l ∈ bodyLines is, '\n' ∉ l := by
    intro l hl
    unfold bodyLines at hl
    split at hl
    · rw [List.mem_singleton.1 hl]
      exact List.not_mem_nil
    · rcases mem_intercalate hl with hempty | ⟨ls, hls, hline⟩
      · rw [List.mem_singleton.1 hempty]
        exact List.not_mem_nil
      · obtain ⟨i, hi, rfl⟩ := List.mem_map.1 hls
        exact newline_not_mem_lines (his i hi) l hline
  intro l hl
  simp only [fileLines, List.cons_append, List.nil_append, List.mem_cons, List.mem_append,
    List.not_mem_nil, or_false] at hl
  rcases hl with rfl | rfl | rfl | rfl | hl | rfl
  · exact htitle
  · exact hheader
  · exact hnotice
  · exact List.not_mem_nil
  · exact hbody l hl
  · exact List.not_mem_nil

/-- **A text is split into the lines of its file.** -/
theorem splitOn_fileText (htime : '\n' ∉ time.toList) (his : ∀ i ∈ is, i.IsLegible) :
    (fileText (is.map Interface.write) time).toList.splitOn '\n' = fileLines is time := by
  rw [toList_fileText]
  exact List.splitOn_intercalate _ (newline_not_mem_fileLines htime his) (List.cons_ne_nil _ _)

/-! ### What is written is read -/

theorem between?_append (front cs back : List Char) :
    between? front back (front ++ cs ++ back) = some cs := by
  have hfront : (front ++ (cs ++ back)).dropPrefix? front = some (cs ++ back) :=
    List.dropPrefix?_append_of_beq (cs ++ back) BEq.rfl
  have hback : (cs ++ back).dropSuffix? back = some cs :=
    List.dropSuffix?_eq_some_iff.2 ⟨back, rfl, BEq.rfl⟩
  rw [between?, List.append_assoc, hfront, Option.bind_some, hback]

/-- A property is read off its line. Its name is what stands before the first mark. -/
theorem property?_propertyLine {p : String × PropertyType} (hcolon : ':' ∉ p.1.toList)
    (hquestion : '?' ∉ p.1.toList) : property? (Interface.propertyLine p) = some (.of p) := by
  have hname : ∀ c ∈ p.1.toList, inName c = true := by
    intro c hc
    have h₁ : c ≠ ':' := fun h => hcolon (h ▸ hc)
    have h₂ : c ≠ '?' := fun h => hquestion (h ▸ hc)
    simp [inName, h₁, h₂]
  rw [propertyLine_eq, property?, between?_append, Option.bind_some,
    List.takeWhile_append_of_pos hname, List.dropWhile_append_of_pos hname]
  cases hoptional : p.2.isOptional with
  | true => simp [inName, PropertyOutline.of, hoptional, TypeExpr.text]
  | false => simp [inName, PropertyOutline.of, hoptional, TypeExpr.text]

/-- The properties of a block are read off their lines, up to the line that closes the block. -/
theorem properties?_append {ps : List (String × PropertyType)}
    (h : ∀ p ∈ ps, ':' ∉ p.1.toList ∧ '?' ∉ p.1.toList) :
    properties? (ps.map Interface.propertyLine ++ [['\x7d']]) = some (ps.map .of) := by
  induction ps with
  | nil => rfl
  | cons p ps ih =>
    have hp := h p List.mem_cons_self
    have hopen : Interface.propertyLine p ≠ ['\x7d'] := by
      rw [propertyLine_eq]
      simp
    rw [List.map_cons, List.cons_append, properties?, if_neg hopen,
      property?_propertyLine hp.1 hp.2, Option.bind_some,
      ih fun p hmem => h p (List.mem_cons_of_mem _ hmem), Option.map_some, List.map_cons]

/-- An interface is read off the lines of its block. -/
theorem interface?_lines (h : i.IsLegible) : interface? i.lines = some i.outline := by
  have hopening : between? opening [' ', '\x7b'] (Interface.openingLine i.name) =
      some i.name.toList :=
    between?_append opening i.name.toList [' ', '\x7b']
  have hproperties : properties? (i.properties.map Interface.propertyLine ++ [['\x7d']]) =
      some (i.properties.map .of) :=
    properties?_append fun p hp => (h.propertyName p hp).2
  unfold Interface.lines
  rw [List.cons_append, interface?, hopening, Option.bind_some, hproperties, Option.map_some,
    String.ofList_toList, Interface.outline]

theorem mapM_interface?_lines (his : ∀ i ∈ is, i.IsLegible) :
    (is.map Interface.lines).mapM interface? = some (is.map Interface.outline) := by
  induction is with
  | nil => rfl
  | cons i is ih =>
    have hi := interface?_lines (his i List.mem_cons_self)
    have his := ih fun i hi => his i (List.mem_cons_of_mem _ hi)
    rw [List.map_cons, List.mapM_cons, hi, his]
    rfl

theorem nil_not_mem_lines (i : Interface) : [] ∉ i.lines := by
  intro hmem
  rcases List.mem_cons.1 hmem with h | hmem
  · unfold Interface.openingLine at h
    exact absurd (congrArg List.length h) (by simp)
  · rcases List.mem_append.1 hmem with hmem | hmem
    · obtain ⟨p, -, h⟩ := List.mem_map.1 hmem
      rw [propertyLine_eq] at h
      simp at h
    · exact absurd (List.mem_singleton.1 hmem) (by decide)

/-- **The lines of the blocks** are read as the outlines of the interfaces. -/
theorem body?_bodyLines (his : ∀ i ∈ is, i.IsLegible) :
    body? (bodyLines is) = some (is.map Interface.outline) := by
  unfold bodyLines
  split
  · rename_i h
    rw [h]
    rfl
  · rename_i h
    have hsplit : ([[]].intercalate (is.map Interface.lines)).splitOn [] =
        is.map Interface.lines := by
      refine List.splitOn_intercalate _ ?_ (by simpa using h)
      intro ls hls
      obtain ⟨i, -, rfl⟩ := List.mem_map.1 hls
      exact nil_not_mem_lines i
    have hfull : [[]].intercalate (is.map Interface.lines) ≠ [[]] := by
      intro hempty
      rw [hempty] at hsplit
      have hmem : [] ∈ is.map Interface.lines := by
        rw [← hsplit]
        decide
      obtain ⟨i, -, hi⟩ := List.mem_map.1 hmem
      exact lines_ne_nil i hi
    rw [body?, if_neg hfull, hsplit, mapM_interface?_lines his]

theorem read?_of_splitOn {text : String} (h : text.toList.splitOn '\n' = fileLines is time)
    (his : ∀ i ∈ is, i.IsLegible) : read? text = some (time, is.map Interface.outline) := by
  have htime : (headerTime time).toList.dropPrefix? timeLabel = some time.toList := by
    rw [toList_headerTime]
    exact List.dropPrefix?_append_of_beq time.toList BEq.rfl
  have hlast : (bodyLines is ++ [[]]).getLast? = some [] := List.getLast?_concat
  have hbody : (bodyLines is ++ [[]]).dropLast = bodyLines is := List.dropLast_concat
  rw [read?, h, fileLines]
  simp only [List.cons_append, List.nil_append, hlast, and_self, if_true, htime, hbody,
    Option.bind_some, body?_bodyLines his, Option.map_some, String.ofList_toList]

/-! ### Counting the first lines of blocks -/

/-- What is counted once in every member, and not in the separator, is counted once a member. -/
theorem countP_intercalate {α : Type} {p : α → Bool} {sep : List α} (hsep : sep.countP p = 0)
    {ls : List (List α)} (hone : ∀ l ∈ ls, l.countP p = 1) :
    (sep.intercalate ls).countP p = ls.length := by
  induction ls with
  | nil => rfl
  | cons l ls ih =>
    have hl := hone l List.mem_cons_self
    have hls := ih fun l hl => hone l (List.mem_cons_of_mem _ hl)
    cases ls with
    | nil => rw [List.intercalate_singleton, hl, List.length_singleton]
    | cons l' ls =>
      rw [List.intercalate_cons_cons, List.countP_append, List.countP_append, hl, hsep, hls,
        List.length_cons (a := l)]
      omega

theorem isPrefixOf_opening_cons {c : Char} (h : c ≠ 'e') (cs : List Char) :
    opening.isPrefixOf (c :: cs) = false := by
  have hopening : opening = 'e' :: "xport interface ".toList := by decide +kernel
  rw [hopening, List.isPrefixOf_cons_cons, beq_false_of_ne (Ne.symm h), Bool.false_and]

/-- Of the lines of a block one starts it. -/
theorem countP_lines (i : Interface) : i.lines.countP (opening.isPrefixOf ·) = 1 := by
  have hfirst : opening.isPrefixOf (Interface.openingLine i.name) = true := by
    rw [List.isPrefixOf_iff_prefix]
    exact ⟨i.name.toList ++ [' ', '\x7b'], (List.append_assoc ..).symm⟩
  have hrest : (i.properties.map Interface.propertyLine ++ [['\x7d']]).countP
      (opening.isPrefixOf ·) = 0 := by
    refine List.countP_eq_zero.2 fun l hl => ?_
    rcases List.mem_append.1 hl with hl | hl
    · obtain ⟨p, -, rfl⟩ := List.mem_map.1 hl
      rw [propertyLine_eq]
      simp only [List.cons_append, isPrefixOf_opening_cons (show ' ' ≠ 'e' by decide),
        Bool.false_eq_true, not_false_eq_true]
    · rw [List.mem_singleton.1 hl, isPrefixOf_opening_cons (by decide)]
      decide
  unfold Interface.lines
  rw [List.cons_append, List.countP_cons_of_pos hfirst, hrest]

/-- **As many lines start a block** as there are interfaces. -/
theorem countP_fileLines (is : List Interface) (time : String) :
    (fileLines is time).countP (opening.isPrefixOf ·) = is.length := by
  have hheader : [headerTitle.toList, (headerTime time).toList, headerNotice.toList, []].countP
      (opening.isPrefixOf ·) = 0 := by
    have htitle : opening.isPrefixOf headerTitle.toList = false := by decide +kernel
    have hnotice : opening.isPrefixOf headerNotice.toList = false := by decide +kernel
    have hempty : opening.isPrefixOf [] = false := by decide +kernel
    have htime : opening.isPrefixOf (headerTime time).toList = false := by
      have hlabel : timeLabel = '/' :: "/ Generated at: ".toList := by decide +kernel
      rw [toList_headerTime, hlabel, List.cons_append, isPrefixOf_opening_cons (by decide)]
    simp only [List.countP_cons, List.countP_nil, htitle, hnotice, hempty, htime,
      Bool.false_eq_true, if_false]
  have hbody : (bodyLines is).countP (opening.isPrefixOf ·) = is.length := by
    have hempty : [[]].countP (opening.isPrefixOf ·) = 0 := by decide +kernel
    unfold bodyLines
    split
    · rename_i h
      rw [h, hempty, List.length_nil]
    · have hone : ∀ ls ∈ is.map Interface.lines, ls.countP (opening.isPrefixOf ·) = 1 := by
        intro ls hls
        obtain ⟨i, -, rfl⟩ := List.mem_map.1 hls
        exact countP_lines i
      rw [countP_intercalate hempty hone, List.length_map]
  have hlast : [[]].countP (opening.isPrefixOf ·) = 0 := by decide +kernel
  rw [fileLines, List.countP_append, List.countP_append, hheader, hbody, hlast]
  omega

/-- **Generated files read back.** The text of a file that is made of legible interfaces and of a
time without line feeds is read as that time and the outlines of those interfaces, in their order.
Its lines that start a block are as many as its interfaces, and another file has the same text only
if it shows the same time and the same outlines. -/
theorem read?_fileText {is : List Interface} {time : String} (htime : '\n' ∉ time.toList)
    (his : ∀ i ∈ is, i.IsLegible) :
    read? (fileText (is.map Interface.write) time) = some (time, is.map Interface.outline) ∧
    (((fileText (is.map Interface.write) time).toList.splitOn '\n').countP
      (opening.isPrefixOf ·)) = is.length ∧
    ∀ (is' : List Interface) (time' : String), '\n' ∉ time'.toList → (∀ i ∈ is', i.IsLegible) →
      fileText (is'.map Interface.write) time' = fileText (is.map Interface.write) time →
      time' = time ∧ is'.map Interface.outline = is.map Interface.outline := by
  have hread := read?_of_splitOn (splitOn_fileText htime his) his
  refine ⟨hread, ?_, ?_⟩
  · rw [splitOn_fileText htime his, countP_fileLines]
  · intro is' time' htime' his' hsame
    have hread' := read?_of_splitOn (splitOn_fileText htime' his') his'
    rw [hsame, hread] at hread'
    have hpair := Prod.mk.inj (Option.some.inj hread')
    exact ⟨hpair.1.symm, hpair.2.symm⟩

/-- An interface with a type that looks like the end of a block and the start of another one. -/
def quotedInterface : Interface where
  name := "NoteInterface"
  properties := [("due on", ⟨.literal (.text "a: b?; export interface "), true⟩), ("", ⟨.any, false⟩)]

/-- A file with that interface and one without properties. -/
theorem read?_fileText_quotedInterface :
    '\n' ∉ "noon".toList ∧ (∀ i ∈ [quotedInterface, ⟨"Interface", []⟩], i.IsLegible) ∧
    read? (fileText ([quotedInterface, ⟨"Interface", []⟩].map Interface.write) "noon") =
      some ("noon", [⟨"NoteInterface", [⟨"due on", true, "'a: b?; export interface '"⟩,
        ⟨"", false, "any"⟩]⟩, ⟨"Interface", []⟩]) := by
  have htime : '\n' ∉ "noon".toList := by decide +kernel
  have hquoted : quotedInterface.IsLegible := by
    refine ⟨by decide +kernel, ?_, ?_⟩
    · decide +kernel
    · decide +kernel
  have hempty : Interface.IsLegible ⟨"Interface", []⟩ :=
    ⟨by decide +kernel, fun p hp => absurd hp List.not_mem_nil,
      fun p hp => absurd hp List.not_mem_nil⟩
  have hlegible : ∀ i ∈ [quotedInterface, ⟨"Interface", []⟩], i.IsLegible := by
    intro i hi
    rcases List.mem_cons.1 hi with rfl | hi
    · exact hquoted
    · rw [List.mem_singleton.1 hi]
      exact hempty
  have houtlines : [quotedInterface, ⟨"Interface", []⟩].map Interface.outline =
      [⟨"NoteInterface", [⟨"due on", true, "'a: b?; export interface '"⟩, ⟨"", false, "any"⟩]⟩,
        ⟨"Interface", []⟩] := by
    decide +kernel
  refine ⟨htime, hlegible, ?_⟩
  rw [(read?_fileText htime hlegible).1, houtlines]

end FileReader

end DtoInterfaces
