import BuilderAudit.Path

/-!
# File trees

A file tree is a directory that holds files, directories and symbolic links under names, with the place of the current
directory in it.

* `Node` : a file, a directory or a link;
* `Node.get?` : what lies below a node under a list of names;
* `Node.alter` : a node with one of the places below it changed (`Node.get?_alter_append`);
* `FileTree` : the tree and the current directory;
* `FileError` : why a system refuses a path or what is asked of it.
-/

namespace BuilderAudit

/-- What the permission bits allow. -/
structure Mode where
  read : Bool
  write : Bool
  /-- For a directory: may paths lead through it? -/
  search : Bool
  deriving DecidableEq, Repr

def Mode.file : Mode := ⟨true, true, false⟩

def Mode.directory : Mode := ⟨true, true, true⟩

inductive Node
  | file (content : List UInt8) (mode : Mode)
  | directory (mode : Mode) (entries : List (Name × Node))
  | link (target : Path)

namespace Node

def emptyDirectory : Node := directory Mode.directory []

def isFile : Node → Bool
  | file .. => true
  | _ => false

def isDirectory : Node → Bool
  | directory .. => true
  | _ => false

def isLink : Node → Bool
  | link _ => true
  | _ => false

/-- What a directory holds under a name. -/
def entry? : Node → Name → Option Node
  | directory _ entries, name => entries.lookup name
  | _, _ => none

/-- What lies below a node under some names. -/
def get? : Node → List Name → Option Node
  | node, [] => some node
  | node, name :: names => (node.entry? name).bind (·.get? names)

/-- Entries in which `f` has changed what stands under `name`. -/
def alterEntry (name : Name) (f : Option Node → Option Node) : List (Name × Node) → List (Name × Node)
  | [] => ((f none).map (name, ·)).toList
  | (n, node) :: entries =>
    if name = n then ((f (some node)).map (name, ·)).toList ++ entries else (n, node) :: alterEntry name f entries

/-- A node in which `f` has changed what lies below it under some names. Nothing changes if the names lead through
something that is no directory. -/
def alter (f : Option Node → Option Node) : List Name → Option Node → Option Node
  | [], node => f node
  | name :: names, some (directory mode entries) =>
    some (directory mode (alterEntry name (alter f names) entries))
  | _ :: _, node => node

end Node

/-- The files that a program can see, and the directory to which relative paths are relative. -/
structure FileTree where
  root : Node
  /-- The names on the way from the root to the current directory. -/
  cwd : List Name
  /-- Has the current directory been taken out of the tree? It then holds nothing, whatever has come in its place. -/
  cwdRemoved : Bool

/-- Who asks: permissions bind a user and not the administrator. -/
inductive Caller
  | user | administrator
  deriving DecidableEq, Repr

def Caller.may (caller : Caller) (allowed : Bool) : Bool := caller = .administrator || allowed

namespace FileTree

def cwdPath (tree : FileTree) : Path := Path.ofNames tree.cwd

/-- The tree with one place changed. -/
def alter (tree : FileTree) (names : List Name) (f : Option Node → Option Node) : FileTree :=
  { tree with root := (Node.alter f names (some tree.root)).getD tree.root }

end FileTree

/-! ## Why a file cannot be reached -/

inductive FileError
  /-- There is nothing under the path. -/
  | notFound
  /-- The permissions of a file or directory do not allow it. -/
  | permissionDenied
  /-- The path goes on below something that is no directory. -/
  | notADirectory
  /-- A directory stands where a file is wanted. -/
  | isADirectory
  /-- A name or the whole path is too long. -/
  | nameTooLong
  /-- The path leads through too many links, which is how a circle of links ends. -/
  | tooManyLinks
  /-- There is a NUL in the path. -/
  | nulInPath
  /-- The file is not valid UTF-8. -/
  | notText
  deriving DecidableEq, Repr

def FileError.message : FileError → String
  | notFound => "No such file or directory (os error 2)"
  | permissionDenied => "Permission denied (os error 13)"
  | notADirectory => "Not a directory (os error 20)"
  | isADirectory => "Is a directory (os error 21)"
  | nameTooLong => "File name too long (os error 36)"
  | tooManyLinks => "Too many levels of symbolic links (os error 40)"
  | nulInPath => "file name contained an unexpected NUL byte"
  | notText => "stream did not contain valid UTF-8"

end BuilderAudit
