import BuilderAudit.Pattern.Expr

/-!
# Matching by marks

To match, an expression is written out as a `Marked` expression: counted repetitions become sequences, and every set of
characters carries a mark. A mark on a set says that a match in progress has just taken a character there. Reading a
character moves all marks at once (`Marked.shift`), so the text is read once, whatever the expression.

* `Marked.skips` : can the expression match the empty text here?
* `Marked.ends` : does a match in progress end here?
* `Expr.marked` : the expression without marks;
* `Marked.occursIn` : does the expression match anywhere in a text?
-/

namespace BuilderAudit.Pattern

inductive Marked
  | empty
  | look (l : Look)
  | chars (set : CodeSet) (mark : Bool)
  | seq (e f : Marked)
  | alt (e f : Marked)
  | star (e : Marked)

namespace Marked

/-- Can the expression match the empty text between the characters `prev` and `next`? -/
def skips (prev next : Option Char) : Marked → Bool
  | empty => true
  | look l => l.holds prev next
  | chars _ _ => false
  | seq e f => e.skips prev next && f.skips prev next
  | alt e f => e.skips prev next || f.skips prev next
  | star _ => true

/-- Does a match in progress end between the characters `prev` and `next`? -/
def ends (prev next : Option Char) : Marked → Bool
  | empty | look _ => false
  | chars _ mark => mark
  | seq e f => (e.ends prev next && f.skips prev next) || f.ends prev next
  | alt e f => e.ends prev next || f.ends prev next
  | star e => e.ends prev next

/-- Reads the character `c` behind the character `prev`; `enter` tells that a match may begin here. -/
def shift (prev : Option Char) (c : Char) (enter : Bool) : Marked → Marked
  | empty => empty
  | look l => look l
  | chars set _ => chars set (enter && set.containsChar c)
  | seq e f =>
    seq (e.shift prev c enter) (f.shift prev c ((enter && e.skips prev (some c)) || e.ends prev (some c)))
  | alt e f => alt (e.shift prev c enter) (f.shift prev c enter)
  | star e => star (e.shift prev c (enter || e.ends prev (some c)))

/-- `n` copies of the expression in a row, as a balanced tree. -/
def copies (e : Marked) (n : Nat) : Marked :=
  if n = 0 then empty
  else if n = 1 then e
  else seq (e.copies (n / 2)) (e.copies (n - n / 2))
termination_by n

def repeated (e : Marked) (min : Nat) : Option Nat → Marked
  | none => if min = 0 then star e else seq (e.copies min) (star e)
  | some max => if max ≤ min then e.copies min else seq (e.copies min) ((alt e empty).copies (max - min))

/-- Does the expression match anywhere in the text that is left, or does a match in progress end there? -/
def occursFrom (e : Marked) (prev : Option Char) : List Char → Bool
  | [] => e.skips prev none || e.ends prev none
  | c :: cs => e.skips prev (some c) || e.ends prev (some c) || (e.shift prev c true).occursFrom (some c) cs

def occursIn (e : Marked) (text : List Char) : Bool := e.occursFrom none text

end Marked

/-- The expression with its repetitions written out and without marks. -/
def Expr.marked : Expr → Marked
  | empty => .empty
  | chars set => .chars set false
  | look l => .look l
  | seq e f => .seq e.marked f.marked
  | alt e f => .alt e.marked f.marked
  | repetition e min max =>
    let (min, max) := e.usefulCounts min max
    e.marked.repeated min max
  | capture e => e.marked

end BuilderAudit.Pattern
