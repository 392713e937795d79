import BuilderAudit.Pattern.Expr
import BuilderAudit.Unicode.CodeSet

/-!
# The size of patterns

A pattern may not be too large. Its size is the number of bytes that an automaton over UTF-8 bytes would take: a state
takes `stateSize`, a state that sorts bytes takes `sortingSize` more for each way out of it, and a state that branches
takes `branchSize` more for each branch. Both the automaton that reads forwards and the one that reads backwards have to
stay within `sizeLimit`.
-/

namespace BuilderAudit.Pattern

inductive Direction
  | forwards | backwards
  deriving DecidableEq

def stateSize : Nat := 32

def sortingSize : Nat := 8

def branchSize : Nat := 4

/-- The greatest size of a pattern, ten mebibytes. -/
def sizeLimit : Nat := 10 * Nat.pow 2 20

/-- The size of a state with the given number of branches. -/
def branchingSize (branches : Nat) : Nat := stateSize + branchSize * branches

/-- The tails of sequences by their first byte ranges, neighbours with the same one taken together. -/
def byHead (seqs : List (List ByteRange)) : List (ByteRange × List (List ByteRange)) :=
  seqs.foldr (fun seq groups =>
    match seq, groups with
    | [], _ => groups
    | head :: tail, (first, tails) :: rest =>
      if head = first then (first, tail :: tails) :: rest else (head, [tail]) :: groups
    | head :: tail, [] => [(head, [tail])]) []

/-- The sets of tails that are left after a beginning of a sequence, for sequences of at most `length` ranges. -/
def tailSets : (length : Nat) → List (List ByteRange) → List (List (List ByteRange))
  | 0, _ => []
  | length + 1, seqs => seqs :: (byHead seqs).flatMap fun (_, tails) => tailSets length tails

/-- The size of a class that is read forwards: equal tails share their states. -/
def classSizeForwards (set : CodeSet) : Nat :=
  let states := ((tailSets 4 set.byteSequences).filter fun seqs => seqs.any (!·.isEmpty)).eraseDups
  states.foldl (fun size seqs => size + stateSize + sortingSize * (byHead seqs).length) stateSize

/-- The size of a class that is read backwards: equal beginnings share their states. -/
def classSizeBackwards (set : CodeSet) : Nat :=
  let seqs := set.byteSequences
  let beginnings := (seqs.flatMap fun seq => (List.range seq.length).map fun n => seq.take (n + 1)).eraseDups
  branchingSize seqs.length + stateSize + stateSize * beginnings.length

def encodedLength (n : Nat) : Nat := if n < 0x80 then 1 else if n < 0x800 then 2 else if n < 0x10000 then 3 else 4

def setSize (dir : Direction) (set : CodeSet) : Nat :=
  match set.normalize.ranges with
  | [] => stateSize
  | [r] =>
    if r.first = r.last then stateSize * encodedLength r.first
    else if r.last < 128 then 2 * stateSize + sortingSize
    else if dir = .forwards then classSizeForwards set else classSizeBackwards set
  | ranges =>
    if set.isAscii then 2 * stateSize + sortingSize * ranges.length
    else if dir = .forwards then classSizeForwards set else classSizeBackwards set

namespace Expr

def asSet? : Expr → Option CodeSet
  | chars set => some set
  | alt e f => do return CodeSet.union (← e.asSet?) (← f.asSet?)
  | _ => none

/-- Does every match of the expression take at least one character? -/
def isConsuming : Expr → Bool
  | empty | look _ => false
  | chars _ => true
  | seq e f => e.isConsuming || f.isConsuming
  | alt e f => e.isConsuming && f.isConsuming
  | repetition e min _ => e.isConsuming && 0 < min
  | capture e => e.isConsuming

def repetitionSize (consuming : Bool) (size : Nat) : Nat × Option Nat → Nat
  | (0, some 0) => stateSize
  | (0, none) => size + branchingSize 2 + (if consuming then 0 else branchingSize 2 + stateSize)
  | (min, none) => min * size + branchingSize 2
  | (min, some max) =>
    if min = max then max * size
    else max * size + stateSize + (max - min) * branchingSize 2 + (if min = 0 && max ≠ 1 then stateSize else 0)

/-- The size of an expression; `choices` tells that it is the rest of an alternation. -/
def size (dir : Direction) (choices : Bool) : Expr → Nat
  | empty => stateSize
  | chars set => setSize dir set
  | look _ => stateSize
  | seq e f => (if e = .empty then 0 else e.size dir false) + (if f = .empty then 0 else f.size dir false)
  | alt e f =>
    match choices, (alt e f).asSet? with
    | false, some set => setSize dir set
    | _, _ => e.size dir false + f.size dir true + branchSize + (if choices then 0 else branchingSize 1 + stateSize)
  | repetition e min max => repetitionSize e.isConsuming (e.size dir false) (e.usefulCounts min max)
  | capture e => e.size dir false + (if dir = .forwards then 2 * stateSize else 0)

/-- Is the expression within the limit in both directions? The match as a whole is a capture. -/
def isSmall (e : Expr) : Bool :=
  (capture e).size .forwards false + stateSize ≤ sizeLimit && (capture e).size .backwards false + stateSize ≤ sizeLimit

end Expr

end BuilderAudit.Pattern
