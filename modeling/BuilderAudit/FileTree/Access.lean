import BuilderAudit.FileTree.Resolve

/-!
# Reading and writing in a file tree

What a user may do with a path:

* `FileTree.lookUp` : what a path leads to, the links on the way followed;
* `FileTree.isDirectory`, `FileTree.isFile` : tests that fail for whatever cannot be reached;
* `FileTree.read`, `FileTree.readText` : the content of a file;
* `FileTree.list` : the entries of a directory;
* `FileTree.write` : a file with other content, new if there was none.
-/

namespace BuilderAudit.FileTree

def lookUp (tree : FileTree) (p : Path) : Except FileError Node := do
  match ← tree.resolve .user .follow p with
  | .found _ node => return node
  | .missing _ _ => .error .notFound

def isDirectory (tree : FileTree) (p : Path) : Bool :=
  match tree.lookUp p with
  | .ok node => node.isDirectory
  | .error _ => false

def isFile (tree : FileTree) (p : Path) : Bool :=
  match tree.lookUp p with
  | .ok node => node.isFile
  | .error _ => false

def read (tree : FileTree) (p : Path) : Except FileError (List UInt8) := do
  match ← tree.lookUp p with
  | .file content mode => if mode.read then return content else .error .permissionDenied
  | .directory mode _ => .error (if mode.read then .isADirectory else .permissionDenied)
  | .link _ => .error .tooManyLinks

def readText (tree : FileTree) (p : Path) : Except FileError (List Char) := do
  match Utf8.decode? (← tree.read p) with
  | some text => return text
  | none => .error .notText

def list (tree : FileTree) (p : Path) : Except FileError (List (Name × Node)) := do
  match ← tree.lookUp p with
  | .directory mode entries => if mode.read then return entries else .error .permissionDenied
  | _ => .error .notADirectory

/-- May a new file be made in the directory under some names? -/
def mayAddTo (tree : FileTree) (caller : Caller) (names : List Name) : Bool :=
  match tree.root.get? names with
  | some (.directory mode _) => caller.may (mode.write && mode.search)
  | _ => false

/-- The tree in which the file that a path leads to holds `content`. The directory of the file has to exist. -/
def write (tree : FileTree) (caller : Caller) (p : Path) (content : List UInt8) : Except FileError FileTree := do
  match ← tree.resolve caller .create p with
  | .found (.within names) (.file _ mode) =>
    if caller.may mode.write then return tree.alter names fun _ => some (.file content mode)
    else .error .permissionDenied
  | .found _ _ => .error .isADirectory
  | .missing (.within names) name =>
    if tree.mayAddTo caller names then
      return tree.alter (names ++ [name]) fun _ => some (.file content Mode.file)
    else .error .permissionDenied
  | .missing .removed _ => .error .notFound

end BuilderAudit.FileTree
