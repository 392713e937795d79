import BuilderAudit.Pattern.Ast
import BuilderAudit.Pattern.Expr
import BuilderAudit.Unicode.CaseFolding

/-!
# From syntax trees to expressions

Flags hold from the place where they are set to the end of the group around it, across bars. `Ast.resolve` carries them
through a syntax tree and replaces every class by its set. Without the flag `u` classes and case are those of ASCII, and
a class may hold ASCII characters only, so that it cannot be negated.
-/

namespace BuilderAudit.Pattern

/-- The flags that change what a pattern matches. -/
structure Flags where
  ignoreCase : Bool
  multiLine : Bool
  dotAll : Bool
  unicode : Bool
  crlf : Bool
  deriving DecidableEq, Repr

namespace Flags

/-- The flags at the start of a pattern: `u` alone. -/
def initial : Flags := ⟨false, false, false, true, false⟩

def apply (flags : Flags) (change : FlagChange) : Flags where
  ignoreCase := (change.state? .ignoreCase).getD flags.ignoreCase
  multiLine := (change.state? .multiLine).getD flags.multiLine
  dotAll := (change.state? .dotAll).getD flags.dotAll
  unicode := (change.state? .unicode).getD flags.unicode
  crlf := (change.state? .crlf).getD flags.crlf

def wordKind (flags : Flags) : WordKind := if flags.unicode then .unicode else .ascii

/-- The set with the case of its characters left open if the flags say so. -/
def fold (flags : Flags) (set : CodeSet) : CodeSet :=
  if !flags.ignoreCase then set
  else if flags.unicode then set.foldCase
  else set.foldAsciiCase

/-- The set or its complement. There is no complement without the flag `u`. -/
def negate (flags : Flags) (negated : Bool) (set : CodeSet) : Except Error CodeSet :=
  if !negated then .ok set
  else if flags.unicode then .ok set.compl
  else .error .unicodeOff

end Flags

def AsciiClass.set : AsciiClass → CodeSet
  | .alnum => ⟨[⟨0x30, 0x39⟩, ⟨0x41, 0x5A⟩, ⟨0x61, 0x7A⟩]⟩
  | .alpha => ⟨[⟨0x41, 0x5A⟩, ⟨0x61, 0x7A⟩]⟩
  | .ascii => ⟨[⟨0x00, 0x7F⟩]⟩
  | .blank => ⟨[⟨0x09, 0x09⟩, ⟨0x20, 0x20⟩]⟩
  | .cntrl => ⟨[⟨0x00, 0x1F⟩, ⟨0x7F, 0x7F⟩]⟩
  | .digit => ⟨[⟨0x30, 0x39⟩]⟩
  | .graph => ⟨[⟨0x21, 0x7E⟩]⟩
  | .lower => ⟨[⟨0x61, 0x7A⟩]⟩
  | .print => ⟨[⟨0x20, 0x7E⟩]⟩
  | .punct => ⟨[⟨0x21, 0x2F⟩, ⟨0x3A, 0x40⟩, ⟨0x5B, 0x60⟩, ⟨0x7B, 0x7E⟩]⟩
  | .space => ⟨[⟨0x09, 0x0D⟩, ⟨0x20, 0x20⟩]⟩
  | .upper => ⟨[⟨0x41, 0x5A⟩]⟩
  | .word => asciiWord
  | .xdigit => ⟨[⟨0x30, 0x39⟩, ⟨0x41, 0x46⟩, ⟨0x61, 0x66⟩]⟩

def EscapeClass.set (flags : Flags) : EscapeClass → CodeSet
  | .digit => if flags.unicode then Property.digit else AsciiClass.digit.set
  | .space => if flags.unicode then Property.space else AsciiClass.space.set
  | .word => if flags.unicode then Property.word else AsciiClass.word.set

/-- The characters with a property. Letter case is left open before the set is negated. -/
def propertySet (flags : Flags) (query : Property.Query) (negated : Bool) : Except Error CodeSet :=
  if !flags.unicode then .error .unicodeOff
  else
    match query.resolve with
    | none => .error .unknownProperty
    | some set => flags.negate negated (flags.fold set)

/-- May the character stand in a class? Without the flag `u` it has to be ASCII. -/
def classChar (flags : Flags) (c : Char) : Except Error Char :=
  if flags.unicode || c.toNat < 128 then .ok c else .error .unicodeOff

def ClassOp.apply : ClassOp → CodeSet → CodeSet → CodeSet
  | .inter => CodeSet.inter
  | .diff => CodeSet.diff
  | .symmDiff => CodeSet.symmDiff

/-- The characters of a class. Letter case is left open in whole brackets and in the operands of operations. -/
def ClassSet.resolve (flags : Flags) : ClassSet → Except Error CodeSet
  | empty => .ok CodeSet.empty
  | literal c => do return CodeSet.singleton (← classChar flags c)
  | range a b => do return CodeSet.interval (← classChar flags a) (← classChar flags b)
  | ascii kind negated => flags.negate negated (flags.fold kind.set)
  | escape kind negated => flags.negate negated (kind.set flags)
  | property query negated => propertySet flags query negated
  | bracketed set negated => do flags.negate negated (flags.fold (← set.resolve flags))
  | union item rest => do return CodeSet.union (← item.resolve flags) (← rest.resolve flags)
  | combine op left right => do
    return op.apply (flags.fold (← left.resolve flags)) (flags.fold (← right.resolve flags))

def Assertion.look (flags : Flags) : Assertion → Look
  | .lineStart => if !flags.multiLine then .textStart else if flags.crlf then .crlfLineStart else .lineStart
  | .lineEnd => if !flags.multiLine then .textEnd else if flags.crlf then .crlfLineEnd else .lineEnd
  | .textStart => .textStart
  | .textEnd => .textEnd
  | .wordBoundary => .boundary flags.wordKind
  | .notWordBoundary => .notBoundary flags.wordKind
  | .wordStart => .wordStart flags.wordKind
  | .wordEnd => .wordEnd flags.wordKind
  | .wordStartHalf => .wordStartHalf flags.wordKind
  | .wordEndHalf => .wordEndHalf flags.wordKind

/-- The characters that a dot stands for: all but line ends, or simply all. -/
def dotSet (flags : Flags) : CodeSet :=
  if flags.dotAll then CodeSet.scalars
  else if flags.crlf then CodeSet.compl ⟨[⟨0x0A, 0x0A⟩, ⟨0x0D, 0x0D⟩]⟩
  else CodeSet.compl ⟨[⟨0x0A, 0x0A⟩]⟩

/-- The characters that a single character stands for. A byte that is no ASCII character is refused without the flag
`u`. -/
def literalSet (flags : Flags) (c : Char) (isByte : Bool) : Except Error CodeSet :=
  if !flags.unicode && isByte && 128 ≤ c.toNat then .error .unicodeOff
  else .ok (flags.fold (CodeSet.singleton c))

/-- The expression of a syntax tree under the given flags, with the flags that hold after it. -/
def Ast.resolve (flags : Flags) : Ast → Except Error (Flags × Expr)
  | empty => .ok (flags, .empty)
  | .flags change => .ok (flags.apply change, .empty)
  | literal c isByte => do return (flags, .chars (← literalSet flags c isByte))
  | dot => if flags.unicode then .ok (flags, .chars (dotSet flags)) else .error .unicodeOff
  | assertion kind => .ok (flags, .look (kind.look flags))
  | escape kind negated => do return (flags, .chars (← flags.negate negated (kind.set flags)))
  | property query negated => do return (flags, .chars (← propertySet flags query negated))
  | bracketed set negated => do return (flags, .chars (← (ClassSet.bracketed set negated).resolve flags))
  | repetition e min max => do
    let (after, e) ← e.resolve flags
    return (after, .repetition e min max)
  | group change captures e => do
    let (_, e) ← e.resolve (flags.apply change)
    return (flags, if captures then .capture e else e)
  | seq item rest => do
    let (between, e) ← item.resolve flags
    let (after, f) ← rest.resolve between
    return (after, .seq e f)
  | alt branch rest => do
    let (between, e) ← branch.resolve flags
    let (after, f) ← rest.resolve between
    return (after, .alt e f)

end BuilderAudit.Pattern
