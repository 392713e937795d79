import BuilderAudit.Unicode.Property

/-!
# Syntax trees of patterns

A pattern is read into an `Ast`, which keeps what was written: flag groups stand where they were written, classes are
not yet sets and words not yet Unicode or ASCII. A sequence is a chain of `seq` and an alternation a chain of `alt`,
both nested to the right; whatever was grouped is under `group`.

* `Flag`, `FlagChange` : inline flags and the groups that set them;
* `ClassSet` : what stands between the brackets of a class;
* `Ast` : whole patterns, built from their parts by `Ast.ofItems` and `Ast.ofBranches`;
* `Ast.nesting` : how deeply a pattern is nested;
* `Error` : why a text is no pattern. Which of the causes it is does not show outside, where all have the same wording.
-/

namespace BuilderAudit.Pattern

inductive Flag
  /-- `i`: letter case does not count. -/
  | ignoreCase
  /-- `m`: `^` and `$` hold at every line. -/
  | multiLine
  /-- `s`: `.` stands for line ends, too. -/
  | dotAll
  /-- `U`: lazy and greedy repetition change places. -/
  | swapGreed
  /-- `u`: classes, words and case are those of Unicode. -/
  | unicode
  /-- `R`: carriage returns end lines. -/
  | crlf
  /-- `x`: white space and comments are skipped. -/
  | spaced
  deriving DecidableEq, Repr

/-- The flags that a flag group sets or clears, in the order of writing. -/
abbrev FlagChange := List (Flag × Bool)

/-- What the change does to a flag: nothing, or set it, or clear it. -/
def FlagChange.state? (change : FlagChange) (flag : Flag) : Option Bool :=
  (change.find? fun (f, _) => f == flag).map Prod.snd

/-- The classes with a one-letter escape. -/
inductive EscapeClass
  | digit | space | word
  deriving DecidableEq, Repr

/-- The named classes `[:name:]`. -/
inductive AsciiClass
  | alnum | alpha | ascii | blank | cntrl | digit | graph | lower | print | punct | space | upper | word | xdigit
  deriving DecidableEq, Repr

def AsciiClass.ofName? : String → Option AsciiClass
  | "alnum" => some .alnum
  | "alpha" => some .alpha
  | "ascii" => some .ascii
  | "blank" => some .blank
  | "cntrl" => some .cntrl
  | "digit" => some .digit
  | "graph" => some .graph
  | "lower" => some .lower
  | "print" => some .print
  | "punct" => some .punct
  | "space" => some .space
  | "upper" => some .upper
  | "word" => some .word
  | "xdigit" => some .xdigit
  | _ => none

inductive ClassOp
  | inter | diff | symmDiff
  deriving DecidableEq, Repr

/-- What stands between the brackets of a class. -/
inductive ClassSet
  | empty
  | literal (c : Char)
  | range (first last : Char)
  | ascii (kind : AsciiClass) (negated : Bool)
  | escape (kind : EscapeClass) (negated : Bool)
  | property (query : Property.Query) (negated : Bool)
  | bracketed (set : ClassSet) (negated : Bool)
  | union (item rest : ClassSet)
  | combine (op : ClassOp) (left right : ClassSet)
  deriving DecidableEq, Repr

def ClassSet.ofItems : List ClassSet → ClassSet
  | [] => empty
  | [item] => item
  | item :: rest => union item (ofItems rest)

inductive Assertion
  | lineStart | lineEnd | textStart | textEnd
  | wordBoundary | notWordBoundary | wordStart | wordEnd | wordStartHalf | wordEndHalf
  deriving DecidableEq, Repr

inductive Ast
  | empty
  /-- A flag group that sets flags for the rest of the group around it. -/
  | flags (change : FlagChange)
  /-- A single character; `isByte` if it is written as two hexadecimal digits. -/
  | literal (c : Char) (isByte : Bool)
  | dot
  | assertion (kind : Assertion)
  | escape (kind : EscapeClass) (negated : Bool)
  | property (query : Property.Query) (negated : Bool)
  | bracketed (set : ClassSet) (negated : Bool)
  | repetition (e : Ast) (min : Nat) (max : Option Nat)
  | group (change : FlagChange) (captures : Bool) (e : Ast)
  | seq (item rest : Ast)
  | alt (branch rest : Ast)
  deriving DecidableEq, Repr

namespace Ast

def ofItems : List Ast → Ast
  | [] => empty
  | [item] => item
  | item :: rest => seq item (ofItems rest)

/-- The alternation of the listed branches, the last one given apart. -/
def ofBranches (last : Ast) : List Ast → Ast
  | [] => last
  | branch :: rest => alt branch (ofBranches last rest)

end Ast

/-! ## Nesting -/

/-- How deeply a class is nested, each union and each bracket counting one; `inUnion` tells that the class goes on with
the union around it. -/
def ClassSet.nesting (inUnion : Bool) : ClassSet → Nat
  | union item rest => (if inUnion then 0 else 1) + max (item.nesting false) (rest.nesting true)
  | bracketed set _ => 1 + set.nesting false
  | combine _ left right => 1 + max (left.nesting false) (right.nesting false)
  | _ => 0

/-- The chain that a node may go on with. -/
inductive Chain
  | none | seq | alt
  deriving DecidableEq

/-- How deeply a pattern is nested, each class, repetition, group, sequence and alternation counting one; `chain` is the
chain that the pattern is the tail of. -/
def Ast.nesting (chain : Chain) : Ast → Nat
  | seq item rest => (if chain = .seq then 0 else 1) + max (item.nesting .none) (rest.nesting .seq)
  | alt branch rest => (if chain = .alt then 0 else 1) + max (branch.nesting .none) (rest.nesting .alt)
  | bracketed set _ => 1 + set.nesting false
  | repetition e _ _ => 1 + e.nesting .none
  | group _ _ e => 1 + e.nesting .none
  | _ => 0

/-- The causes for which a text is refused as a pattern. -/
inductive Error
  /-- A group is not closed. -/
  | unclosedGroup
  /-- A parenthesis closes no group. -/
  | unopenedGroup
  /-- A class is not closed. -/
  | unclosedClass
  /-- The ends of a range in a class are no characters, or in the wrong order. -/
  | badRange
  /-- Something stands in a class that is no set of characters. -/
  | badClassItem
  /-- A repetition has nothing to repeat. -/
  | missingOperand
  /-- The counts of a repetition are malformed, too large or in the wrong order. -/
  | badCount
  /-- An escape is unfinished or not known. -/
  | badEscape
  /-- A flag group is malformed. -/
  | badFlags
  /-- The name of a group is malformed or taken. -/
  | badGroupName
  /-- Groups that look ahead or behind are not supported. -/
  | lookAround
  /-- There is no such property, or no such value of it. -/
  | unknownProperty
  /-- Something needs Unicode while the flag `u` is off. -/
  | unicodeOff
  /-- The pattern is nested too deeply. -/
  | tooDeep
  /-- The pattern is too large. -/
  | tooLarge
  deriving DecidableEq, Repr

end BuilderAudit.Pattern
