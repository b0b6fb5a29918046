import DtoInterfaces.Typing

/-!
# Sessions

A session remembers which classes have been dealt with, so that a class that is met again, in
another file or under the same name, is passed over. A class is dealt with when it is met first,
whatever comes of it: an interface, a class without properties, or a failure.

## Main definitions

* `Session` — the classes that have been dealt with.
* `Session.cleared` — the session of an export that is about to start.
* `Session.interface?` — the interface of a class that has not.
* `Session.interfaces` — the interfaces of a list of classes, and the classes that fail.
-/

namespace DtoInterfaces

/-- The classes that have been dealt with, the last one first. -/
structure Session where
  processed : List String
deriving DecidableEq, Inhabited

/-- A class that is left out because there is no instance of it. -/
structure SkippedClass where
  name : String
  reason : String
deriving DecidableEq

/-- How a skipped class is listed. -/
def SkippedClass.message (c : SkippedClass) : String := c.name ++ ": " ++ c.reason

namespace Session

/-- The session in which nothing has been dealt with. -/
def fresh : Session := ⟨[]⟩

/-- The session after everything that has been dealt with is forgotten. -/
def cleared (_ : Session) : Session := fresh

/-- The interface of a class, and the session after that. There is none if the class has been
dealt with before, or has no properties. -/
def interface? (s : Session) (r : Registry) (name : String) :
    Except ExtractError (Option Interface) × Session :=
  if name ∈ s.processed then (.ok none, s)
  else
    ((r.extractShape name).map fun shape =>
      let i := r.interface name shape
      if i.isEmpty then none else some i, ⟨name :: s.processed⟩)

/-- What comes of a list of classes. -/
structure Harvest where
  interfaces : List Interface
  skipped : List SkippedClass
  session : Session

/-- The interfaces of a list of classes and the classes that fail, both in the order of the
list. -/
def interfaces (s : Session) (r : Registry) : List String → Harvest
  | [] => ⟨[], [], s⟩
  | name :: names =>
    match s.interface? r name with
    | (.ok none, s) => s.interfaces r names
    | (.ok (some i), s) =>
      let later := s.interfaces r names
      { later with interfaces := i :: later.interfaces }
    | (.error e, s) =>
      let later := s.interfaces r names
      { later with skipped := ⟨name, e.message⟩ :: later.skipped }

end Session

end DtoInterfaces
