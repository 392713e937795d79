import BuilderAudit.Config.Basic
import BuilderAudit.FileTree.Access
import BuilderAudit.Log.Event
import BuilderAudit.Scan.Error

/-!
# Discovery of candidate files

A walk goes through a directory and all directories below it. The entries of a directory are visited in the order of the
bytes of their names, and what a directory holds comes where its name comes. Links to files count as files; links to
directories are not entered, except for the root itself.

* `Walk.visits` : what a walk meets;
* `Discovery.ofVisits` : the files among it whose names match a pattern, or the error at which a policy stops the walk;
* `discover` : both for a root, with the log of the walk.
-/

namespace BuilderAudit

/-- What a walk meets. -/
inductive Visit
  /-- A regular file or a link to one, with the last name of its path. -/
  | file (path : Path) (name : Name)
  /-- A directory that cannot be listed. -/
  | unreadable (path : Path) (cause : FileError)
  deriving DecidableEq, Repr

namespace Walk

def inOrder (entries : List (Name × List Visit)) : List Visit :=
  (entries.mergeSort fun a b => decide (a.1 ≤ b.1)).flatMap Prod.snd

mutual

/-- What a walk meets at a node and below it. -/
def visits (tree : FileTree) (path : Path) (name : Name) : Node → List Visit
  | .file _ _ => [.file path name]
  | .link _ => if tree.isFile path then [.file path name] else []
  | .directory _ entries =>
    match tree.list path with
    | .error cause => [.unreadable path cause]
    | .ok _ => inOrder (entryVisits tree path entries)
termination_by structural node => node

def entryVisits (tree : FileTree) (path : Path) : List (Name × Node) → List (Name × List Visit)
  | [] => []
  | (name, node) :: entries => (name, visits tree (path.join name) name node) :: entryVisits tree path entries
termination_by structural entries => entries

end

def ofRoot (tree : FileTree) (root : Path) : List Visit :=
  match tree.lookUp root with
  | .ok node => visits tree root [] node
  | .error cause => [.unreadable root cause]

end Walk

/-- The files found under one root, and the number of directories that could not be listed. -/
structure Discovery where
  files : List Path
  skipped : Nat
  deriving DecidableEq, Repr

/-- Does the name of a file match? Invalid parts of the name are replaced first. -/
def FilePattern.acceptsName (p : FilePattern) (name : Name) : Bool := p.accepts (Utf8.decodeLossy name)

namespace Visit

def candidate? (pattern : FilePattern) : Visit → Option Path
  | file path name => if pattern.acceptsName name then some path else none
  | unreadable .. => none

def failure? : Visit → Option (Path × FileError)
  | file .. => none
  | unreadable path cause => some (path, cause)

def event? (pattern : FilePattern) : Visit → Option Log.Event
  | file path name => if pattern.acceptsName name then some (.nameMatched path) else none
  | unreadable path cause => some (.entrySkipped path cause)

end Visit

namespace Discovery

/-- The files that match, and the number of failures: the first failure ends the walk unless failures are skipped. -/
def ofVisits (pattern : FilePattern) (policy : ReadErrorPolicy) (visits : List Visit) : Except ScanError Discovery :=
  match policy, visits.findSome? Visit.failure? with
  | .fail, some (path, cause) => .error (.unreadableDirectory path cause)
  | _, _ => .ok ⟨visits.filterMap (Visit.candidate? pattern), visits.countP fun v => v.failure?.isSome⟩

def events (pattern : FilePattern) (policy : ReadErrorPolicy) (visits : List Visit) : List Log.Event :=
  (visits.takeWhile fun v => policy = .skip || v.failure?.isNone).filterMap (Visit.event? pattern)

end Discovery

def checkRoot (tree : FileTree) (root : Path) : Except ScanError Unit :=
  match tree.lookUp root with
  | .error _ => .error (.rootNotFound root)
  | .ok node => if node.isDirectory then .ok () else .error (.rootNotDirectory root)

/-- The absolute form of a root. A relative one has none if the current directory has been removed. -/
def absoluteRoot (tree : FileTree) (root : Path) : Except ScanError Path :=
  if !root.isAbsolute && tree.cwdRemoved then .error (.unreadableFile root .notFound)
  else .ok (root.absolute tree.cwdPath)

/-- The candidate files under a root, as absolute paths, and what is told about the walk. -/
def discover (tree : FileTree) (root : Path) (pattern : FilePattern) (policy : ReadErrorPolicy) :
    Except ScanError Discovery × List Log.Event :=
  match (do checkRoot tree root; absoluteRoot tree root) with
  | .error e => (.error e, [])
  | .ok root =>
    let visits := Walk.ofRoot tree root
    let events := Discovery.events pattern policy visits
    match Discovery.ofVisits pattern policy visits with
    | .error e => (.error e, events)
    | .ok found =>
      (.ok found, events ++ [.rootDiscovered root pattern.text found.files.length found.skipped])

end BuilderAudit
