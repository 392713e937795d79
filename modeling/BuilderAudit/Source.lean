import BuilderAudit.Path
import BuilderAudit.Text.Basic

/-!
# Source files and the deprecation detector

A source file is its path and its lines. Its package is the one that its first package declaration names: a line with
the word `package` at its start, white space, the name, and at most one semicolon.

A detector looks for a marker in each line of a source file. The text is not parsed, so a marker in a comment or in a
string counts as well.
-/

namespace BuilderAudit

structure SourceFile where
  path : Path
  lines : List String
  deriving DecidableEq, Repr

namespace SourceFile

def ofContent (path : Path) (content : List Char) : SourceFile :=
  ⟨path, (Text.lines content).map String.ofList⟩

/-- The name that a line declares, if it is a package declaration. -/
def packageOfLine? (line : List Char) : Option (List Char) := do
  let rest ← Text.stripStart? "package".toList line
  if !(rest.head?.any isBlank) then none
  else
    let declared := Text.trim rest
    let name := Text.trim (if declared.getLast? = some ';' then declared.dropLast else declared)
    if name.isEmpty then none else some name

/-- The name in the first package declaration. -/
def packageName? (source : SourceFile) : Option String :=
  (source.lines.findSome? fun line => packageOfLine? line.toList).map String.ofList

end SourceFile

/-- How a line is tested against the marker. -/
inductive MarkerMatch
  /-- The line holds the marker anywhere. -/
  | contains
  /-- The line does not start with the marker. -/
  | legacy
  deriving DecidableEq, Repr

structure Detector where
  marker : String
  mode : MarkerMatch
  deriving DecidableEq, Repr

def defaultMarker : String := "@Deprecated"

namespace Detector

def default : Detector := ⟨defaultMarker, .contains⟩

def hits (d : Detector) (line : String) : Bool :=
  match d.mode with
  | .contains => Text.occursIn d.marker.toList line.toList
  | .legacy => !d.marker.toList.isPrefixOf line.toList

def isDeprecated (d : Detector) (source : SourceFile) : Bool := source.lines.any d.hits

/-- The numbers of the lines that are hits, counted from one. -/
def markerLines (d : Detector) (source : SourceFile) : List Nat :=
  (source.lines.zipIdx 1).filterMap fun (line, number) => if d.hits line then some number else none

end Detector

end BuilderAudit
