import DtoInterfaces.Export.Discovery
import DtoInterfaces.Export.File
import DtoInterfaces.Export.Session

/-!
# Exports

An export discovers classes, finds their interfaces and writes them to one file. A class of which
there is no instance is listed as skipped and does not stop the export; only the file system can
do that. If there is no interface nothing is written.

An exporter keeps its session from one call to the next. An export clears it first, so what has
been dealt with before does not matter to it.

## Main definitions

* `Exporter` — what stays the same from one export to the next.
* `ExportReport` — what an export has done.
* `Exporter.runIn` — an export of an exporter that is in some session.
* `Exporter.run` — an export of an exporter that has done nothing before.
-/

namespace DtoInterfaces

/-- The name of the generated file, unless another one is chosen. -/
def defaultFilename : String := "dtos.ts"

/-- What stays the same from one export to the next. -/
structure Exporter where
  registry : Registry
  discovery : Discovery
  /-- The class that exported classes inherit from. -/
  baseClass : String

/-- What an export has done. -/
structure ExportReport where
  /-- The number of interfaces that are written. -/
  count : Nat
  /-- The generated file; none if there was nothing to write. -/
  file : Option Path
  skipped : List SkippedClass
deriving DecidableEq

/-- Whether an export has written nothing. -/
def ExportReport.isEmpty (report : ExportReport) : Bool := report.count == 0

namespace Exporter

variable {m : Type → Type} [Monad m] [FileStore m]

/-- What comes of the given classes in a session that is cleared first. -/
def harvest (e : Exporter) (s : Session) (names : List String) : Session.Harvest :=
  s.cleared.interfaces e.registry names

/-- Write what has come of the classes to a file in the directory `output`. The clock tells the
time that the header of the file shows. -/
def publish (clock : m String) (output : Path) (filename : String) (harvest : Session.Harvest) :
    m (Except ExportError ExportReport) := do
  if harvest.interfaces.isEmpty then return .ok ⟨0, none, harvest.skipped⟩
  else
    let text := fileText (harvest.interfaces.map Interface.write) (← clock)
    match ← emit output filename text with
    | .error error => return .error error
    | .ok path => return .ok ⟨harvest.interfaces.length, some path, harvest.skipped⟩

/-- Export the classes below `root` to a file in the directory `output`, by an exporter that is in
the session `s`. The answer comes with the session behind the export. -/
def runIn (e : Exporter) (s : Session) (clock : m String) (root output : Path)
    (filename : String) : m (Except ExportError ExportReport × Session) := do
  let harvest := e.harvest s (← e.discovery.classes e.registry e.baseClass root)
  return (← publish clock output filename harvest, harvest.session)

/-- Export the classes below `root` to a file in the directory `output`. -/
def run (e : Exporter) (clock : m String) (root output : Path) (filename : String) :
    m (Except ExportError ExportReport × Session) :=
  e.runIn .fresh clock root output filename

end Exporter

end DtoInterfaces
