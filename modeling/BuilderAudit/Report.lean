import BuilderAudit.Json.Basic
import BuilderAudit.Path

/-!
# Reports of a scan

A report lists the matches of a run in the order in which they were found, with the number of files that were looked at
and of those that could not be read.

* `Report.text` : one line for each match, its index and its path;
* `Report.json?` : the whole report as JSON, unless a path in it is not valid UTF-8.
-/

namespace BuilderAudit

/-- A source file that carries the marker. -/
structure Match where
  /-- The position among all matches of the run, counted from zero. -/
  index : Nat
  path : Path
  package : Option String
  markerLines : List Nat
  deriving DecidableEq, Repr

structure Report where
  roots : List Path
  filesScanned : Nat
  filesSkipped : Nat
  found : List Match
  deriving DecidableEq, Repr

inductive ReportFormat
  | text | json
  deriving DecidableEq, Repr

def ReportFormat.name : ReportFormat → String
  | text => "text"
  | json => "json"

def Match.line (m : Match) : String := toString m.index ++ " " ++ m.path.display ++ "\n"

/-- A match as JSON. The package is left out if there is none. -/
def Match.json? (m : Match) : Option Json := do
  let path ← m.path.text?
  let package := match m.package with
    | none => []
    | some name => [("package", Json.string name)]
  return .object ([("index", .number m.index), ("path", .string path)] ++ package ++
    [("marker_lines", .array (m.markerLines.map .number))])

namespace Report

/-- The report of a run over `roots` that has not found anything yet. -/
def start (roots : List Path) : Report := ⟨roots, 0, 0, []⟩

def text (r : Report) : String := String.join (r.found.map Match.line)

/-- The report as JSON. The number of skipped files is left out if it is zero. -/
def json? (r : Report) : Option Json := do
  let roots ← r.roots.mapM fun root => root.text?.map Json.string
  let found ← r.found.mapM Match.json?
  let skipped := if r.filesSkipped = 0 then [] else [("files_skipped", Json.number r.filesSkipped)]
  return .object ([("roots", .array roots), ("files_scanned", .number r.filesScanned)] ++ skipped ++
    [("matches", .array found)])

/-- The report in the given form. There is no JSON for a path that is not valid UTF-8. -/
def render? (r : Report) : ReportFormat → Option String
  | .text => some r.text
  | .json => r.json?.map fun j => String.ofList (j.pretty 0 ++ ['\n'])

end Report

end BuilderAudit
