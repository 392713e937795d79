import BuilderAudit.Unicode.Property

/-!
# Expressions and what they match

An `Expr` is a pattern in which nothing depends on flags any more: classes are sets, and words are Unicode or ASCII
words. `Expr.Matches e before text after` says that `e` matches `text` when it stands between `before` and `after`; the
text before is given backwards, its nearest character first.
-/

namespace BuilderAudit.Pattern

/-- Which characters words are made of. -/
inductive WordKind
  | ascii | unicode
  deriving DecidableEq, Repr

def asciiWord : CodeSet := ⟨[⟨0x30, 0x39⟩, ⟨0x41, 0x5A⟩, ⟨0x5F, 0x5F⟩, ⟨0x61, 0x7A⟩]⟩

def WordKind.isWord : WordKind → Option Char → Bool
  | _, none => false
  | ascii, some c => asciiWord.containsChar c
  | unicode, some c => Property.word.containsChar c

inductive Look
  | textStart | textEnd
  | lineStart | lineEnd
  /-- Lines end with a line feed, a carriage return, or the one after the other. -/
  | crlfLineStart | crlfLineEnd
  | boundary (kind : WordKind) | notBoundary (kind : WordKind)
  | wordStart (kind : WordKind) | wordEnd (kind : WordKind)
  | wordStartHalf (kind : WordKind) | wordEndHalf (kind : WordKind)
  deriving DecidableEq, Repr

/-- Does the condition hold between the characters `prev` and `next`? -/
def Look.holds (prev next : Option Char) : Look → Bool
  | textStart => prev.isNone
  | textEnd => next.isNone
  | lineStart => prev.isNone || prev == some '\n'
  | lineEnd => next.isNone || next == some '\n'
  | crlfLineStart => prev.isNone || prev == some '\n' || (prev == some '\r' && next != some '\n')
  | crlfLineEnd => next.isNone || next == some '\r' || (next == some '\n' && prev != some '\r')
  | boundary kind => kind.isWord prev != kind.isWord next
  | notBoundary kind => kind.isWord prev == kind.isWord next
  | wordStart kind => !kind.isWord prev && kind.isWord next
  | wordEnd kind => kind.isWord prev && !kind.isWord next
  | wordStartHalf kind => !kind.isWord prev
  | wordEndHalf kind => !kind.isWord next

/-- Patterns without flags. -/
inductive Expr
  | empty
  | chars (set : CodeSet)
  | look (l : Look)
  | seq (e f : Expr)
  | alt (e f : Expr)
  | repetition (e : Expr) (min : Nat) (max : Option Nat)
  | capture (e : Expr)
  deriving DecidableEq, Repr

namespace Expr

/-- `Matches e before text after`: the expression matches `text` between `before`, given backwards, and `after`. -/
inductive Matches : Expr → List Char → List Char → List Char → Prop
  | empty (before after : List Char) : Matches .empty before [] after
  | chars {set : CodeSet} {c : Char} (before after : List Char) (h : set.containsChar c = true) :
      Matches (.chars set) before [c] after
  | look {l : Look} {before after : List Char} (h : l.holds before.head? after.head? = true) :
      Matches (.look l) before [] after
  | seq {e f : Expr} {before u v after : List Char} (he : Matches e before u (v ++ after))
      (hf : Matches f (u.reverse ++ before) v after) : Matches (.seq e f) before (u ++ v) after
  | altLeft {e f : Expr} {before text after : List Char} (h : Matches e before text after) :
      Matches (.alt e f) before text after
  | altRight {e f : Expr} {before text after : List Char} (h : Matches f before text after) :
      Matches (.alt e f) before text after
  | done {e : Expr} (max : Option Nat) (before after : List Char) : Matches (.repetition e 0 max) before [] after
  | more {e : Expr} {min : Nat} {max : Option Nat} {before u v after : List Char} (hmax : max ≠ some 0)
      (he : Matches e before u (v ++ after))
      (hr : Matches (.repetition e (min - 1) (max.map (· - 1))) (u.reverse ++ before) v after) :
      Matches (.repetition e min max) before (u ++ v) after
  | capture {e : Expr} {before text after : List Char} (h : Matches e before text after) :
      Matches (.capture e) before text after

/-- Can the expression match the empty text only? -/
def isWidthless : Expr → Bool
  | empty | look _ => true
  | chars _ => false
  | seq e f | alt e f => e.isWidthless && f.isWidthless
  | repetition e _ max => e.isWidthless || max == some 0
  | capture e => e.isWidthless

/-- The counts of a repetition that make a difference: what has no width is matched at most once. -/
def usefulCounts (e : Expr) (min : Nat) (max : Option Nat) : Nat × Option Nat :=
  if e.isWidthless then (Nat.min min 1, some (Nat.min (max.getD 1) 1)) else (min, max)

end Expr

end BuilderAudit.Pattern
