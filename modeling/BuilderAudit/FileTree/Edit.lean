import BuilderAudit.FileTree.Access

/-!
# Changing a file tree

`Edit` holds the changes that the owner of a tree can make to it. Permissions do not bind the owner. Directories that
are missing on the way to a new file, directory or link are made as well.
-/

namespace BuilderAudit

/-- The paths of names below a path, shortest first. -/
def Path.stepsFrom (base : Path) : List Name → List Path
  | [] => []
  | name :: names => base.join name :: stepsFrom (base.join name) names

/-- The path of the directory that holds the last name, and the paths on the way to it, shortest first. -/
def Path.parents (p : Path) : List Path :=
  Path.stepsFrom (if p.isAbsolute then ⟨[Path.slash]⟩ else ⟨[]⟩) p.components.dropLast

inductive Edit
  /-- Puts a file with a content under a path, in place of the file that is there. -/
  | write (path : Path) (content : List UInt8)
  | makeDirectory (path : Path)
  /-- Takes away a file, a link, or a directory with all it holds. -/
  | remove (path : Path)
  /-- Puts a link under a path. -/
  | link (path target : Path)
  | setMode (path : Path) (mode : Mode)

namespace FileTree

/-- The tree with a directory under a path, if its own directory exists. -/
def addDirectory (tree : FileTree) (p : Path) : Except FileError FileTree := do
  match ← tree.resolve .administrator .follow p with
  | .found _ node => if node.isDirectory then return tree else .error .notADirectory
  | .missing (.within names) name => return tree.alter (names ++ [name]) fun _ => some Node.emptyDirectory
  | .missing .removed _ => .error .notFound

/-- The tree with all directories on the way to the last name of a path. -/
def addParents (tree : FileTree) (p : Path) : Except FileError FileTree := p.parents.foldlM addDirectory tree

def remove (tree : FileTree) (p : Path) : Except FileError FileTree := do
  match ← tree.resolve .administrator .keep p with
  | .found (.within names) _ =>
    let tree := tree.alter names fun _ => none
    return { tree with cwdRemoved := tree.cwdRemoved || names.isPrefixOf tree.cwd }
  | _ => .error .notFound

/-- The tree with a link under a path, where nothing may stand yet. -/
def addLink (tree : FileTree) (p target : Path) : Except FileError FileTree := do
  if 0 ∈ target.bytes then .error .nulInPath
  else
    match ← tree.resolve .administrator .keep p with
    | .missing (.within names) name => return tree.alter (names ++ [name]) fun _ => some (.link target)
    | _ => .error .notADirectory

/-- A node with other permissions. A link has none of its own. -/
def withMode (mode : Mode) : Node → Node
  | .file content _ => .file content mode
  | .directory _ entries => .directory mode entries
  | .link target => .link target

def setMode (tree : FileTree) (p : Path) (mode : Mode) : Except FileError FileTree := do
  match ← tree.resolve .administrator .follow p with
  | .found (.within names) _ => return tree.alter names fun node => node.map (withMode mode)
  | _ => .error .notFound

def apply (tree : FileTree) : Edit → Except FileError FileTree
  | .write p content => do (← tree.addParents p).write .administrator p content
  | .makeDirectory p => do (← tree.addParents p).addDirectory p
  | .remove p => tree.remove p
  | .link p target => do (← tree.addParents p).addLink p target
  | .setMode p mode => tree.setMode p mode

end FileTree

end BuilderAudit
