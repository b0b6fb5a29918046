import DtoInterfaces.Json.Fault
import DtoInterfaces.Json.Token

/-!
# Documents, as far as they make sense

Reading a document must report its *first* problem, and what a problem is depends on what the
document is read for: a list where a name should stand is one, and then it does not matter that
the list is never closed. So the structure of a text is kept even if the text breaks off or stops
making sense. The tree of a text holds everything up to that place, and the place itself as the
leaf `broken`. Readers walk the tree in the order of the text; whatever they meet first decides.

The tree is built by a machine that takes one token at a time and keeps the collections that are
still open on a stack, so that nesting costs no recursion.

## Main definitions

* `Doc` — the tree.
* `Doc.complete` — nothing is broken; this is all that is asked of a value nobody reads.
* `Doc.readable` — every part has a value, and no more collections are open at once than a
  reader can follow.
* `Document` — a tree and whether anything follows it.
* `Document.ofText` — the document of a text.
-/

namespace DtoInterfaces

namespace Json

/-! ### The tree -/

/-- The name of a member of an object. -/
inductive Key where
  | name (text : String)
  /-- A name with a lone surrogate, which is no text. -/
  | unreadable
  /-- No name where one should stand. -/
  | absent
deriving DecidableEq

/-- The tree of a text. -/
inductive Doc where
  | null
  | bool (value : Bool)
  | number (value : Number)
  | string (value : String)
  /-- A string or a number that is spelled correctly and has no value. -/
  | unreadable
  | array (items : List Doc)
  | object (members : List (Key × Doc))
  /-- The place from which on the text makes no sense. -/
  | broken
deriving Inhabited

/-- What a message says about a value of the wrong kind. A broken or unreadable value is not of
the wrong kind; it is malformed. -/
def Doc.found? : Doc → Option Found
  | .null => some .null
  | .bool b => some (.boolean b)
  | .number n => some (.number n)
  | .string s => some (.text s)
  | .array _ => some .sequence
  | .object _ => some .map
  | .unreadable | .broken => none

mutual

/-- Whether the text of the value makes sense to its end. -/
def Doc.complete : Doc → Bool
  | .broken => false
  | .array items => Doc.allComplete items
  | .object members => Doc.membersComplete members
  | _ => true

/-- `Doc.complete`, for each item. -/
def Doc.allComplete : List Doc → Bool
  | [] => true
  | d :: ds => d.complete && Doc.allComplete ds

/-- `Doc.complete`, for each member. -/
def Doc.membersComplete : List (Key × Doc) → Bool
  | [] => true
  | (_, d) :: ds => d.complete && Doc.membersComplete ds

end

/-- How many collections a reader can have open at once. -/
def depthLimit : Nat := 127

mutual

/-- Whether every part of the value can be read when `depth` collections are open around it. -/
def Doc.readable (depth : Nat) : Doc → Bool
  | .broken | .unreadable => false
  | .array items => depth < depthLimit && Doc.allReadable (depth + 1) items
  | .object members => depth < depthLimit && Doc.membersReadable (depth + 1) members
  | _ => true

/-- `Doc.readable`, for each item. -/
def Doc.allReadable (depth : Nat) : List Doc → Bool
  | [] => true
  | d :: ds => d.readable depth && Doc.allReadable depth ds

/-- `Doc.readable`, for each member; the names are read as well. -/
def Doc.membersReadable (depth : Nat) : List (Key × Doc) → Bool
  | [] => true
  | (.name _, d) :: ds => d.readable depth && Doc.membersReadable depth ds
  | _ :: _ => false

end

/-! ### Building the tree -/

/-- A collection that is still open, with the parts that are already complete, the last one
first. -/
inductive Frame where
  | array (done : List Doc)
  | object (done : List (Key × Doc)) (key : Key)

/-- The collection that ends with the given part. -/
def Frame.close : Frame → Doc → Doc
  | .array done, d => .array (d :: done).reverse
  | .object done key, d => .object ((key, d) :: done).reverse

/-- The tree in which the open collections end with the given part. -/
def unwind (d : Doc) (frames : List Frame) : Doc := frames.foldl (fun d frame => frame.close d) d

/-- What the machine waits for. -/
inductive Mode where
  /-- A value, or the end of an array that has just been opened. -/
  | value
  /-- The name of a member, or the end of an object that has just been opened. -/
  | name (done : List (Key × Doc))
  /-- The colon after a name. -/
  | colon (done : List (Key × Doc)) (key : Key)
  /-- The end of the collection around a complete value, or another part of it. -/
  | after (d : Doc)

/-- What the text up to here amounts to, should nothing that makes sense follow. -/
def Mode.stop (frames : List Frame) : Mode → Doc
  | .value => unwind .broken frames
  | .name done => unwind (.object ((.absent, .broken) :: done).reverse) frames
  | .colon done key => unwind (.object ((key, .broken) :: done).reverse) frames
  | .after d =>
    match frames with
    | [] => d
    | .array done :: frames => unwind (.array (.broken :: d :: done).reverse) frames
    | .object done key :: frames =>
      unwind (.object ((.absent, .broken) :: (key, d) :: done).reverse) frames

/-- One step of the machine: go on in another mode, or stop with the tree. -/
def Mode.step (frames : List Frame) (mode : Mode) (t : Token) : Doc ⊕ (Mode × List Frame) :=
  match mode with
  | .value =>
    match t, frames with
    | .null, _ => .inr (.after .null, frames)
    | .bool b, _ => .inr (.after (.bool b), frames)
    | .number n, _ => .inr (.after (n.elim .unreadable .number), frames)
    | .string s, _ => .inr (.after (s.elim .unreadable .string), frames)
    | .openArray, _ => .inr (.value, .array [] :: frames)
    | .openObject, _ => .inr (.name [], frames)
    | .closeArray, .array [] :: outer => .inr (.after (.array []), outer)
    | _, _ => .inl (Mode.value.stop frames)
  | .name done =>
    match t, done with
    | .string s, _ => .inr (.colon done (s.elim .unreadable .name), frames)
    | .closeObject, [] => .inr (.after (.object []), frames)
    | _, _ => .inl ((Mode.name done).stop frames)
  | .colon done key =>
    match t with
    | .colon => .inr (.value, .object done key :: frames)
    | _ => .inl ((Mode.colon done key).stop frames)
  | .after d =>
    match frames, t with
    | .array done :: outer, .comma => .inr (.value, .array (d :: done) :: outer)
    | .array done :: outer, .closeArray => .inr (.after (.array (d :: done).reverse), outer)
    | .object done key :: outer, .comma => .inr (.name ((key, d) :: done), outer)
    | .object done key :: outer, .closeObject =>
      .inr (.after (.object ((key, d) :: done).reverse), outer)
    | _, _ => .inl ((Mode.after d).stop frames)

/-- A tree, and whether the text ends with it. -/
structure Document where
  root : Doc
  /-- Nothing follows the root. -/
  clean : Bool

/-- Whether the machine stands behind a complete root. -/
def Mode.atEnd (frames : List Frame) : Mode → Bool
  | .after _ => frames.isEmpty
  | _ => false

/-- Run the machine on the tokens. -/
def Mode.run (frames : List Frame) (mode : Mode) : List Token → Document
  | [] => ⟨mode.stop frames, true⟩
  | t :: ts =>
    match mode.step frames t with
    | .inl root => ⟨root, !mode.atEnd frames⟩
    | .inr (mode, frames) => mode.run frames ts

/-- The document of a text. -/
def Document.ofText (text : String) : Document := Mode.value.run [] (tokens text.toList)

end Json

end DtoInterfaces
