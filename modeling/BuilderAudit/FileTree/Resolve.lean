import BuilderAudit.FileTree.Basic

/-!
# Where a path leads

A path is followed name by name. Each step needs the permission to search the directory it starts from. A link is
replaced by the names of its target, and a path may lead through forty links at most.

* `Spot` : a place in the tree, or the current directory after its removal;
* `FileTree.along` : the names of a path followed up to a link, `FileTree.follow` : through links as well;
* `FileTree.resolve` : where a whole path leads.
-/

namespace BuilderAudit

/-- Where the names of a path have led. -/
inductive Spot
  /-- The place under some names from the root. -/
  | within (names : List Name)
  /-- The current directory, which is no longer in the tree. -/
  | removed
  deriving DecidableEq, Repr

/-- What a path names. -/
inductive Reached
  | found (spot : Spot) (node : Node)
  /-- Nothing stands under the last name, but there is a directory to hold it. -/
  | missing (directory : Spot) (name : Name)

/-- What happens at the last name of a path. -/
inductive Ending
  /-- A link is followed. -/
  | follow
  /-- A link is taken for itself. -/
  | keep
  /-- A link is followed, and there has to be room for a file: a slash at the end is refused. -/
  | create
  deriving DecidableEq, Repr

/-- The most links that a path may lead through. -/
def linkLimit : Nat := 40

def nameLimit : Nat := 255

/-- The number of bytes that a path does not reach. -/
def pathLimit : Nat := 4096

/-- The names that a path consists of, single and double dots among them. -/
def Path.steps (p : Path) : List Name := p.segments.filter fun s => !s.isEmpty

namespace FileTree

def at? (tree : FileTree) : Spot → Option Node
  | .within names => tree.root.get? names
  | .removed => some Node.emptyDirectory

/-- The place of an entry of a directory. The removed directory has no entries. -/
def below : Spot → Name → Spot
  | .within names, name => .within (names ++ [name])
  | .removed, _ => .removed

/-- The directory above a spot. The root is above itself. -/
def above (tree : FileTree) : Spot → Spot
  | .within names => .within names.dropLast
  | .removed => .within tree.cwd.dropLast

def start (tree : FileTree) : Spot := if tree.cwdRemoved then .removed else .within tree.cwd

/-- Where a path starts that is met at a spot. -/
def origin (here : Spot) (p : Path) : Spot := if p.isAbsolute then .within [] else here

/-- Follows names from a spot. `slash` tells whether a slash stands at the end, and `jump` goes on behind a link, from
the directory that holds it or from the root, with the names of its target in front of those that are left. -/
def along (tree : FileTree) (caller : Caller) (ending : Ending)
    (jump : Spot → Bool → List Name → Except FileError Reached) (here : Spot) (slash : Bool) :
    List Name → Except FileError Reached
  | [] =>
    match tree.at? here with
    | some node => .ok (.found here node)
    | none => .error .notFound
  | name :: rest =>
    match tree.at? here with
    | none => .error .notFound
    | some (.file ..) => .error .notADirectory
    | some (.link _) => .error .notADirectory
    | some (.directory mode entries) =>
      if !caller.may mode.search then .error .permissionDenied
      else if name = [Path.dot] then along tree caller ending jump here slash rest
      else if name = [Path.dot, Path.dot] then along tree caller ending jump (tree.above here) slash rest
      else if rest.isEmpty && slash && ending = .create then .error .isADirectory
      else if nameLimit < name.length then .error .nameTooLong
      else
        match entries.lookup name with
        | none => if rest.isEmpty then .ok (.missing here name) else .error .notFound
        | some (.directory mode entries) =>
          if rest.isEmpty then .ok (.found (below here name) (.directory mode entries))
          else along tree caller ending jump (below here name) slash rest
        | some (.file content mode) =>
          if rest.isEmpty && !slash then .ok (.found (below here name) (.file content mode))
          else .error .notADirectory
        | some (.link target) =>
          if rest.isEmpty && !slash && ending = .keep then .ok (.found (below here name) (.link target))
          else jump (origin here target) (slash || rest.isEmpty && target.endsWithSlash) (target.steps ++ rest)

/-- Follows names from a spot through a number of links at most. -/
def follow (tree : FileTree) (caller : Caller) (ending : Ending) :
    (links : Nat) → Spot → Bool → List Name → Except FileError Reached
  | 0 => along tree caller ending fun _ _ _ => .error .tooManyLinks
  | links + 1 => along tree caller ending (follow tree caller ending links)

def resolve (tree : FileTree) (caller : Caller) (ending : Ending) (p : Path) : Except FileError Reached :=
  if 0 ∈ p.bytes then .error .nulInPath
  else if p.isEmpty then .error .notFound
  else if pathLimit ≤ p.bytes.length then .error .nameTooLong
  else tree.follow caller ending linkLimit (origin tree.start p) p.endsWithSlash p.steps

end FileTree

end BuilderAudit
