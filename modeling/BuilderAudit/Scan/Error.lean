import BuilderAudit.FileTree.Basic
import BuilderAudit.Path

/-!
# Why a scan stops

`ScanError` holds the causes for which a scan ends without a report. A root that is missing or no directory is told
apart from the others by `ScanError.isRootError`.
-/

namespace BuilderAudit

inductive ScanError
  | rootNotFound (root : Path)
  | rootNotDirectory (root : Path)
  | unreadableFile (path : Path) (cause : FileError)
  /-- A directory below a root, or a root itself, cannot be listed. -/
  | unreadableDirectory (path : Path) (cause : FileError)
  /-- A transformer refuses a match. -/
  | refused (transformer : String) (path : Path) (reason : String)
  deriving DecidableEq, Repr

namespace ScanError

/-- The wording of a scan error, without the cause below it. -/
def message : ScanError → String
  | rootNotFound root => "source root '" ++ root.display ++ "' not found"
  | rootNotDirectory root => "source root '" ++ root.display ++ "' is not a directory"
  | unreadableFile path _ => "failed to read file '" ++ path.display ++ "'"
  | unreadableDirectory path _ => "failed to scan directory at " ++ path.display
  | refused name path reason => "transformer '" ++ name ++ "' failed on " ++ path.display ++ ": " ++ reason

/-- The wording of a scan error with the cause below it. The cause for which a directory cannot be listed is not told; a
word in angle brackets stands in its place. -/
def fullMessage : ScanError → String
  | unreadableFile path cause => (unreadableFile path cause).message ++ ": " ++ cause.message
  | unreadableDirectory path cause => (unreadableDirectory path cause).message ++ ": <walk error>"
  | e => e.message

def cause? : ScanError → Option FileError
  | unreadableFile _ cause | unreadableDirectory _ cause => some cause
  | _ => none

def isRootError : ScanError → Bool
  | rootNotFound _ | rootNotDirectory _ => true
  | _ => false

end ScanError

end BuilderAudit
