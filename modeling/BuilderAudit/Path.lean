import BuilderAudit.Text.Utf8

/-!
# Paths

A path is a sequence of bytes in which slashes separate names; it need not be valid UTF-8. Nothing here looks at a file
system.

* `Path.segments` : what stands between the slashes;
* `Path.fileName?`, `Path.extension` : the last name and what follows its last dot;
* `Path.join` : a name below a path;
* `Path.absolute` : a path made absolute by its text alone: `..` and symbolic links stay.
-/

namespace BuilderAudit

/-- The name of an entry of a directory. -/
abbrev Name := List UInt8

structure Path where
  bytes : List UInt8
  deriving DecidableEq, Repr

namespace Path

def slash : UInt8 := 0x2F

def dot : UInt8 := 0x2E

def ofString (s : String) : Path := ⟨Utf8.encode s.toList⟩

def text? (p : Path) : Option String := (Utf8.decode? p.bytes).map String.ofList

/-- The text of a path for messages: invalid parts are replaced. -/
def display (p : Path) : String := String.ofList (Utf8.decodeLossy p.bytes)

def isEmpty (p : Path) : Bool := p.bytes.isEmpty

/-- What stands between the slashes of some bytes, the first piece given apart. -/
def splitSlash : List UInt8 → List UInt8 × List (List UInt8)
  | [] => ([], [])
  | b :: bytes =>
    let (first, rest) := splitSlash bytes
    if b = slash then ([], first :: rest) else (b :: first, rest)

/-- The pieces between the slashes, empty ones included; there is always one. -/
def segments (p : Path) : List Name :=
  let (first, rest) := splitSlash p.bytes
  first :: rest

/-- The segments that count: neither empty nor a single dot. -/
def components (p : Path) : List Name := p.segments.filter fun s => !s.isEmpty && s != [dot]

def isAbsolute (p : Path) : Bool := p.bytes.head? == some slash

def endsWithSlash (p : Path) : Bool := p.bytes.getLast? == some slash

/-- The last name of the path, unless it leads up. -/
def fileName? (p : Path) : Option Name :=
  match p.components.getLast? with
  | none => none
  | some name => if name = [dot, dot] then none else some name

/-- What follows the last dot of the last name, if a name stands before the dot. -/
def extension? (p : Path) : Option (List UInt8) := do
  let name ← p.fileName?
  let ending := name.reverse.takeWhile (· != dot)
  match name.reverse.drop ending.length with
  | [] => none
  | [_] => none
  | _ => some ending.reverse

/-- The extension as text in ASCII lower case, empty if there is none or if it is not valid UTF-8. -/
def extension (p : Path) : String :=
  String.ofList (((p.extension?.bind Utf8.decode?).getD []).map Char.toLower)

def join (p : Path) (name : Name) : Path :=
  if p.isEmpty || p.endsWithSlash then ⟨p.bytes ++ name⟩ else ⟨p.bytes ++ slash :: name⟩

def ofNames (names : List Name) : Path := names.foldl join ⟨[slash]⟩

/-- Do exactly two slashes open the path? Such a start is kept. -/
def hasDoubleSlash (p : Path) : Bool :=
  match p.bytes with
  | a :: b :: rest => a = slash && b = slash && rest.head? != some slash
  | _ => false

/-- The path made absolute, relative paths being relative to `cwd`. Single dots and repeated slashes are dropped, and a
slash at the end is kept. -/
def absolute (p cwd : Path) : Path :=
  let start : Path := if !p.isAbsolute then cwd else if p.hasDoubleSlash then ⟨[slash, slash]⟩ else ⟨[slash]⟩
  let joined := p.components.foldl join start
  if p.endsWithSlash && !joined.endsWithSlash then ⟨joined.bytes ++ [slash]⟩ else joined

end Path

end BuilderAudit
