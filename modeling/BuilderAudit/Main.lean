import BuilderAudit.Program

/-!
# The command line program

What a command line names is copied from the disk into a file tree: the configuration file, the roots with all that they
hold, and the directory of the output file. The program runs on that tree; then its outcome is printed, and a report
that has been written in the tree is written to the disk. A link to a file is copied as a file, and a link to a
directory below a root is left out, because a scan makes no other use of them.
-/

namespace BuilderAudit.Disk

/-- The tree after an edit; an edit that is impossible changes nothing. -/
def edited (tree : FileTree) (e : Edit) : FileTree := ((tree.apply e).toOption).getD tree

def unreadable : Mode := ⟨false, true, true⟩

/-- Copies an entry of a directory to a path of a tree, with all that it holds. -/
partial def copyEntry (entry : IO.FS.DirEntry) (p : Path) (tree : FileTree) : IO FileTree := do
  match ← entry.path.metadata.toBaseIO with
  | .error _ => return tree
  | .ok info =>
    match info.type with
    | .file =>
      match ← (IO.FS.readBinFile entry.path).toBaseIO with
      | .ok bytes => return edited tree (.write p bytes.toList)
      | .error _ => return edited (edited tree (.write p [])) (.setMode p unreadable)
    | .dir =>
      let tree := edited tree (.makeDirectory p)
      match ← entry.path.readDir.toBaseIO with
      | .error _ => return edited tree (.setMode p unreadable)
      | .ok entries => entries.foldlM copyBelow tree
    | _ => return tree
where
  /-- Copies an entry to where its name comes below the path. -/
  copyBelow (tree : FileTree) (inner : IO.FS.DirEntry) : IO FileTree := do
    let isLink := match ← inner.path.symlinkMetadata.toBaseIO with
      | .ok info => info.type == .symlink
      | .error _ => false
    let isDirectory := match ← inner.path.metadata.toBaseIO with
      | .ok info => info.type == .dir
      | .error _ => false
    if isLink && isDirectory then return tree
    else copyEntry inner (p.join (Utf8.encode inner.fileName.toList)) tree

def copy (tree : FileTree) (p : Path) : IO FileTree := copyEntry ⟨".", p.display⟩ p tree

/-- Makes a path a directory of the tree, if it is one on the disk. -/
def copyDirectory (tree : FileTree) (p : Path) : IO FileTree := do
  let entry : IO.FS.DirEntry := ⟨".", p.display⟩
  match ← entry.path.metadata.toBaseIO with
  | .ok info => return if info.type == .dir then edited tree (.makeDirectory p) else tree
  | .error _ => return tree

/-- The tree that holds nothing but the current directory. -/
def currentTree : IO FileTree := do
  let cwd := Path.ofString (← IO.currentDir).toString
  return edited ⟨Node.emptyDirectory, cwd.components, false⟩ (.makeDirectory cwd)

def treeFor (args : CommandLine.Args) : IO FileTree := do
  let tree ← currentTree
  let tree ← match args.config with
    | some p => copy tree p
    | none => pure tree
  let tree ← match args.base tree with
    | .ok config => (args.applyTo config).sourceRoots.foldlM copy tree
    | .error _ => pure tree
  match args.outputFile with
  | some p => do copyDirectory (← p.parents.foldlM copyDirectory tree) p
  | none => return tree

def saveReport (args : CommandLine.Args) (tree : FileTree) : IO Unit := do
  match args.outputFile, args.outputFile.map tree.read with
  | some p, some (.ok content) => IO.FS.writeBinFile p.display ⟨content.toArray⟩
  | _, _ => return ()

def logLine (e : Log.Event) : String :=
  e.line ++ String.join (e.values.map fun (name, value) => " " ++ name ++ "=" ++ value)

def printOutcome (outcome : Outcome) : IO Unit := do
  for e in outcome.log do IO.eprintln (logLine e)
  if let some text := outcome.error then IO.eprintln ("Error: " ++ text)
  IO.print outcome.stdout

end BuilderAudit.Disk

open BuilderAudit in
def main (argv : List String) : IO UInt32 := do
  let setting ← IO.getEnv "RUST_LOG"
  let tree ← match CommandLine.Args.parse argv with
    | .ok args => Disk.treeFor args
    | .error _ => Disk.currentTree
  let (outcome, tree) := Program.run argv setting tree
  if outcome.code = 0 then
    if let .ok args := CommandLine.Args.parse argv then Disk.saveReport args tree
  if outcome.code = 2 then IO.eprintln "error: invalid arguments, see --help"
  Disk.printOutcome outcome
  return outcome.code.toUInt32
