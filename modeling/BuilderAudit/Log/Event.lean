import BuilderAudit.FileTree.Basic
import BuilderAudit.Path

/-!
# Log events

What a run tells about itself while it works. Each event has a level, the part of the program that it comes from, a
message, and some named values.
-/

namespace BuilderAudit.Log

/-- The levels of events, from the gravest to the most detailed. -/
inductive Level
  | error | warn | info | debug | trace
  deriving DecidableEq, Repr

/-- The position of a level; a higher one is more detailed. -/
def Level.rank : Level → Nat
  | error => 1
  | warn => 2
  | info => 3
  | debug => 4
  | trace => 5

def Level.name : Level → String
  | error => "ERROR"
  | warn => "WARN"
  | info => "INFO"
  | debug => "DEBUG"
  | trace => "TRACE"

inductive Event
  | configLoaded (path : Path)
  | rootStarted (root : Path)
  | nameMatched (path : Path)
  /-- A directory could not be listed and is passed over. -/
  | entrySkipped (path : Path) (cause : FileError)
  | rootDiscovered (root : Path) (pattern : String) (count skipped : Nat)
  /-- A file could not be read and is passed over. -/
  | fileSkipped (path : Path) (cause : FileError)
  /-- A file does not carry the marker. -/
  | unmarked (path : Path)
  /-- A file carries the marker. -/
  | marked (index : Nat) (path : Path) (transformer : String)
  /-- A match was left as it is. -/
  | transformSkipped (path : Path) (index : Nat) (destination : Path) (builderNamespace : String)
  | scanComplete (roots filesScanned filesSkipped matchCount : Nat)
  | reportWritten (path : Path) (format : String)
  deriving DecidableEq, Repr

namespace Event

def level : Event → Level
  | entrySkipped .. | fileSkipped .. => .warn
  | scanComplete .. | reportWritten .. => .info
  | configLoaded .. | rootStarted .. | rootDiscovered .. | marked .. | transformSkipped .. => .debug
  | nameMatched .. | unmarked .. => .trace

def target : Event → String
  | reportWritten .. => "builder_audit"
  | configLoaded .. => "builder_audit::config"
  | nameMatched .. | entrySkipped .. | rootDiscovered .. => "builder_audit::discovery::walker"
  | rootStarted .. | fileSkipped .. | unmarked .. | marked .. | scanComplete .. => "builder_audit::scanner"
  | transformSkipped .. => "builder_audit::transform"

def message : Event → String
  | configLoaded .. => "loaded config file"
  | rootStarted .. => "scanning root"
  | nameMatched .. => "pattern matched"
  | entrySkipped .. => "skipping unreadable entry"
  | rootDiscovered .. => "discovered candidate files"
  | fileSkipped .. => "skipping unreadable file"
  | unmarked .. => "no deprecated marker"
  | marked .. => "deprecated builder"
  | transformSkipped .. => "transform skipped"
  | scanComplete .. => "scan complete"
  | reportWritten .. => "report written"

def values : Event → List (String × String)
  | configLoaded path | nameMatched path | unmarked path => [("path", path.display)]
  | rootStarted root => [("root", root.display)]
  | entrySkipped path cause =>
    [("path", path.display), ("error", "IO error for operation on " ++ path.display ++ ": " ++ cause.message)]
  | fileSkipped path cause => [("path", path.display), ("error", cause.message)]
  | rootDiscovered root pattern count skipped =>
    [("root", root.display), ("pattern", pattern), ("count", toString count), ("skipped", toString skipped)]
  | marked index path transformer =>
    [("index", toString index), ("path", path.display), ("transformer", transformer)]
  | transformSkipped path index destination builderNamespace =>
    [("path", path.display), ("index", toString index), ("destination", destination.display),
      ("namespace", builderNamespace)]
  | scanComplete roots filesScanned filesSkipped matchCount =>
    [("roots", toString roots), ("files_scanned", toString filesScanned), ("files_skipped", toString filesSkipped),
      ("matches", toString matchCount)]
  | reportWritten path format => [("path", path.display), ("format", format)]

/-- The names of the fields of an event: the message is one of them. -/
def fields (e : Event) : List String := "message" :: e.values.map Prod.fst

def line (e : Event) : String := e.level.name ++ " " ++ e.message

end Event

end BuilderAudit.Log
